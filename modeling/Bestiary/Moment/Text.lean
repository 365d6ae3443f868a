import Bestiary.Moment
import Bestiary.Text.Digit
/-!
# The text of a moment

A moment is written as its date and its time with a `T` between them, a fraction of six digits unless it
is zero, and a `Z` or the distance from universal time if that is known. Read are such texts with a space,
an underscore or a small `t` in the middle, without seconds, with a fraction of any length, with a distance
without its colon; dates alone, which are their midnight; and counts of seconds or milliseconds.
-/
namespace Bestiary.Moment

/-- Reads something from the start of the characters and answers it with the rest. -/
abbrev Scan (α : Type) := List Char → Option (α × List Char)

/-- The number that exactly so many digits write. -/
def fixed (width : Nat) : Scan Nat := fun s =>
  let ds := s.take width
  if ds.length = width && ds.all Text.isAsciiDigit then some (Text.natOfDigits ds, s.drop width) else none

/-- The rest after this character. -/
def after (c : Char) (s : List Char) : Option (List Char) :=
  match s with
  | d :: rest => if d = c then some rest else none
  | [] => none

/-- Year, month and day. -/
def date : Scan (Nat × Nat × Nat) := fun s => do
  let (year, s) ← fixed 4 s
  let s ← after '-' s
  let (month, s) ← fixed 2 s
  let s ← after '-' s
  let (day, s) ← fixed 2 s
  return ((year, month, day), s)

/-- The microseconds that the digits of a fraction write; digits after the sixth are dropped. -/
def microOf (ds : List Char) : Nat := Text.natOfDigits ((ds ++ List.replicate 6 '0').take 6)

/-- Second and microsecond, if there are any. -/
def seconds (s : List Char) : Option ((Nat × Nat) × List Char) :=
  match s with
  | ':' :: s => do
    let (second, s) ← fixed 2 s
    match s with
    | c :: rest =>
      if c = '.' || c = ',' then
        match rest.takeWhile Text.isAsciiDigit with
        | [] => none
        | ds => return ((second, microOf ds), rest.dropWhile Text.isAsciiDigit)
      else return ((second, 0), s)
    | [] => return ((second, 0), s)
  | _ => return ((0, 0), s)

/-- The distance from universal time, after its sign. -/
def distance (sign : Int) (s : List Char) : Option (Option Int × List Char) := do
  let (hours, s) ← fixed 2 s
  let (minutes, s) ← fixed 2 ((after ':' s).getD s)
  if minutes < 60 then return (some (sign * (hours * 60 + minutes : Nat)), s) else none

/-- The distance from universal time, if there is one. -/
def offset (s : List Char) : Option (Option Int × List Char) :=
  match s with
  | [] => some (none, [])
  | c :: rest =>
    if c = 'Z' || c = 'z' then some (some 0, rest)
    else if c = '+' then distance 1 rest
    else if c = '-' || c = '\u2212' then distance (-1) rest
    else none

/-- The moment of a text with a date and a time. -/
def parseFull? (s : List Char) : Option Moment := do
  let ((year, month, day), s) ← date s
  match s with
  | c :: s =>
    if c = 'T' || c = 't' || c = '_' || c = ' ' then
      let (hour, s) ← fixed 2 s
      let s ← after ':' s
      let (minute, s) ← fixed 2 s
      let ((second, micro), s) ← seconds s
      let (offset, s) ← offset s
      if s.isEmpty then ofReading? ⟨year, month, day, hour, minute, second, micro, offset⟩ else none
    else none
  | [] => none

/-- The midnight of a text with a date alone. -/
def parseDate? (s : List Char) : Option Moment := do
  let ((year, month, day), s) ← date s
  if s.isEmpty then ofReading? ⟨year, month, day, 0, 0, 0, 0, none⟩ else none

/-- The moment of a text with a count. Fractions are summed digit by digit. -/
def parseCount? (s : List Char) : Option Moment :=
  let (negative, s) := match s with
    | '-' :: rest => (true, rest)
    | '+' :: rest => (false, rest)
    | _ => (false, s)
  let whole := s.takeWhile Text.isAsciiDigit
  let n : Int := Text.natOfDigits whole
  if whole.isEmpty || !fitsWord n then none
  else
    match s.dropWhile Text.isAsciiDigit with
    | [] => ofCount? (if negative then -n else n) 0
    | '.' :: ds =>
      if ds.all Text.isAsciiDigit then
        let step := fun (sum, unit) (d : Char) =>
          (sum + Float.ofNat (d.toNat - 48) / unit, unit * 10)
        let sum := (ds.foldl step ((Number.Double.ofInt n).toFloat, (10 : Float))).1
        let x := if negative then -sum else sum
        let inMillis := Float.ofNat greatestSeconds < x.abs
        let x := if inMillis then x / 1000 else x
        let below := x.floor
        match (Number.Double.ofFloat below).toInt? with
        | some seconds =>
          ofCount? seconds ((x - below) * 1000000).round.toUInt64.toNat
        | none => none
      else none
    | _ => none

/-- The moment that a text stands for. -/
def parse? (s : String) : Option Moment :=
  (parseFull? s.toList).or ((parseCount? s.toList).or (parseDate? s.toList))

/-- A number in exactly so many digits, if it has no more. -/
def padded (width n : Nat) : List Char :=
  let ds := Nat.toDigits 10 n
  List.replicate (width - ds.length) '0' ++ ds

/-- The characters of a distance from universal time. -/
def offsetChars : Option Int → List Char
  | none => []
  | some m =>
    if m = 0 then ['Z']
    else (if m < 0 then '-' else '+') :: padded 2 (m.natAbs / 60) ++ ':' :: padded 2 (m.natAbs % 60)

/-- The characters of a moment. -/
def chars (m : Moment) : List Char :=
  let r := m.reading
  padded 4 r.year ++ '-' :: padded 2 r.month ++ '-' :: padded 2 r.day ++ 'T' :: padded 2 r.hour ++
    ':' :: padded 2 r.minute ++ ':' :: padded 2 r.second ++
    (if r.micro = 0 then [] else '.' :: padded 6 r.micro) ++ offsetChars r.offset

/-- The text of a moment. -/
def text (m : Moment) : String := String.ofList m.chars

end Bestiary.Moment
