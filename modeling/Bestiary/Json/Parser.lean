import Bestiary.Json
import Bestiary.Text.Digit
/-!
# Reading documents

A document is read from its text by recursive descent. Where the text is not a document, a `Fault` tells
what was expected and where: positions count characters from the start of the text. An object that gives
a key twice keeps the first place and the last value. `NaN`, `Infinity` and `-Infinity` are read too.

How deep brackets may nest is up to the reach, which is what whoever reads has left of its stack. An escape
may write half of a surrogate pair; the text is then a torn one. A torn key shows, and stands for its value.
-/
namespace Bestiary.Json

open Number (Double)

/-- Why a text is not a document. -/
inductive Fault.Cause where
  | value
  | key
  | colon
  /-- No comma follows the item or entry. -/
  | comma
  /-- A text that starts here never ends. -/
  | openText
  /-- A control character stands in a text. -/
  | control
  /-- A backslash is followed by no escape. -/
  | badEscape
  /-- An escaped code unit does not have four hexadecimal digits. -/
  | badUnit
  | trailing
  /-- The text starts with a byte order mark. -/
  | mark
  /-- An integer has more digits than are read. -/
  | tooManyDigits (count : Nat)
  /-- The bracket of a list or of an object stands deeper than the reach. -/
  | tooDeep (list : Bool)
  deriving DecidableEq, Repr

/-- What is wrong with a text, and where. -/
structure Fault where
  cause : Fault.Cause
  /-- Number of characters before the place. -/
  position : Nat
  deriving DecidableEq, Repr

namespace Fault

/-- The wording of a cause. -/
def Cause.message : Cause → String
  | .value => "Expecting value"
  | .key => "Expecting property name enclosed in double quotes"
  | .colon => "Expecting ':' delimiter"
  | .comma => "Expecting ',' delimiter"
  | .openText => "Unterminated string starting at"
  | .control => "Invalid control character at"
  | .badEscape => "Invalid \\escape"
  | .badUnit => "Invalid \\uXXXX escape"
  | .trailing => "Extra data"
  | .mark => "Unexpected UTF-8 BOM (decode using utf-8-sig)"
  | .tooManyDigits count =>
    "Exceeds the limit (" ++ toString Text.digitLimit ++ " digits) for integer string conversion: value has " ++
      toString count ++ " digits; use sys.set_int_max_str_digits() to increase the limit"
  | .tooDeep list =>
    "maximum recursion depth exceeded while decoding a JSON " ++ (if list then "array" else "object") ++
      " from a unicode string"

/-- The wording of a fault in a text: what, and at which line, column and character. -/
def message (text : String) (fault : Fault) : String :=
  match fault.cause with
  | .tooManyDigits _ | .tooDeep _ => fault.cause.message
  | cause =>
    let before := text.toList.take fault.position
    let line := before.count '\n' + 1
    let column := (before.reverse.takeWhile (· ≠ '\n')).length + 1
    cause.message ++ ": line " ++ toString line ++ " column " ++ toString column ++ " (char " ++
      toString fault.position ++ ")"

end Fault

namespace Parser

/-- What is read, or a cause and the number of characters from the place to the end of the text. A reader
answers what it read together with the characters after it. -/
abbrev Scan := Except (Fault.Cause × Nat)

/-- Whether the character may stand between the parts of a document. -/
def isSpace (c : Char) : Bool := c = ' ' || c = '\t' || c = '\n' || c = '\r'

/-- The characters after any space. -/
def skipSpace (s : List Char) : List Char := s.dropWhile isSpace

/-- The value of a hexadecimal digit. -/
def hexValue? (c : Char) : Option Nat :=
  if '0' ≤ c && c ≤ '9' then some (c.toNat - 48)
  else if 'a' ≤ c && c ≤ 'f' then some (c.toNat - 87)
  else if 'A' ≤ c && c ≤ 'F' then some (c.toNat - 55)
  else none

/-- The code unit that four hexadecimal digits write. -/
def unit? : List Char → Option Nat
  | [a, b, c, d] => do
    let a ← hexValue? a
    let b ← hexValue? b
    let c ← hexValue? c
    let d ← hexValue? d
    return a * 4096 + b * 256 + c * 16 + d
  | _ => none

/-- The character that a letter stands for after a backslash. -/
def escaped? (c : Char) : Option Char :=
  match c with
  | '"' => some '"'
  | '\\' => some '\\'
  | '/' => some '/'
  | 'b' => some '\x08'
  | 'f' => some '\x0c'
  | 'n' => some '\n'
  | 'r' => some '\r'
  | 't' => some '\t'
  | _ => none

/-- Whether the code unit is the first half of a pair. -/
def isHighUnit (unit : Nat) : Bool := 0xd800 ≤ unit && unit < 0xdc00

/-- Whether the code unit is the second half of a pair. -/
def isLowUnit (unit : Nat) : Bool := 0xdc00 ≤ unit && unit < 0xe000

/-- The code point written as one or two escaped code units, from the characters after the `u`. An escape
that ends the text is refused, since the text would have no closing quote. -/
def unitEscape (s : List Char) : Scan (Nat × List Char) :=
  let refusal := (Fault.Cause.badUnit, s.length + 1)
  if s.length < 5 then .error refusal
  else match unit? (s.take 4) with
    | none => .error refusal
    | some unit =>
      let rest := s.drop 4
      if isHighUnit unit && rest.take 2 == ['\\', 'u'] && 6 < rest.length then
        match unit? ((rest.drop 2).take 4) with
        | none => .error (.badUnit, rest.length - 1)
        | some low =>
          if isLowUnit low then .ok (0x10000 + (unit - 0xd800) * 1024 + (low - 0xdc00), rest.drop 6)
          else .ok (unit, rest)
      else .ok (unit, rest)

/-- The code points of a text, up to and without its closing quote. `start` counts the characters from the
opening quote to the end; each round of the fuel takes at least one character. -/
def textPoints (start : Nat) : Nat → List Char → Scan (List Nat × List Char)
  | 0, _ => .error (.openText, start)
  | _ + 1, [] => .error (.openText, start)
  | fuel + 1, c :: rest =>
    if c = '"' then .ok ([], rest)
    else if c.toNat < 32 then .error (.control, rest.length + 1)
    else if c = '\\' then
      match rest with
      | [] => .error (.openText, start)
      | 'u' :: rest => do
        let (n, rest) ← unitEscape rest
        let (ns, rest) ← textPoints start fuel rest
        return (n :: ns, rest)
      | e :: rest =>
        match escaped? e with
        | none => .error (.badEscape, rest.length + 2)
        | some c => do
          let (ns, rest) ← textPoints start fuel rest
          return (c.toNat :: ns, rest)
    else do
      let (ns, rest) ← textPoints start fuel rest
      return (c.toNat :: ns, rest)

/-- The code points of a text, from the characters after its opening quote. -/
def text (s : List Char) : Scan (List Nat × List Char) := textPoints (s.length + 1) (s.length + 1) s

/-- The digits at the start, and what follows them. -/
def digits (s : List Char) : List Char × List Char := s.span Text.isAsciiDigit

/-- The digits after a decimal point, if there is one with digits after it. -/
def fraction (s : List Char) : List Char × List Char :=
  match s with
  | '.' :: rest => if (digits rest).1.isEmpty then ([], s) else digits rest
  | _ => ([], s)

/-- The exponent, if there is one with digits. -/
def exponent (s : List Char) : Option Int × List Char :=
  match s with
  | e :: rest =>
    if e = 'e' || e = 'E' then
      let (negative, rest) := match rest with
        | '-' :: rest => (true, rest)
        | '+' :: rest => (false, rest)
        | _ => (false, rest)
      match digits rest with
      | ([], _) => (none, s)
      | (ds, rest) =>
        let n : Int := Text.natOfDigits ds
        (some (if negative then -n else n), rest)
    else (none, s)
  | [] => (none, s)

/-- A number: an integer unless it has a fraction or an exponent. -/
def number (s : List Char) : Scan (Json × List Char) :=
  let (negative, unsigned) := match s with
    | '-' :: rest => (true, rest)
    | _ => (false, s)
  let (whole, rest) := match unsigned with
    | '0' :: rest => (['0'], rest)
    | _ => digits unsigned
  if whole.isEmpty then .error (.value, s.length)
  else
    let (decimals, rest) := fraction rest
    let (power, rest) := exponent rest
    if decimals.isEmpty && power.isNone then
      if Text.digitLimit < whole.length then .error (.tooManyDigits whole.length, s.length)
      else
        let n : Int := Text.natOfDigits whole
        .ok (.int (if negative then -n else n), rest)
    else
      .ok (.float (Double.ofDecimal negative (Text.natOfDigits (whole ++ decimals))
        (power.getD 0 - decimals.length)), rest)

/-- The words that are documents. -/
def words : List (List Char × Json) :=
  [("null".toList, .null), ("true".toList, .bool true), ("false".toList, .bool false),
    ("NaN".toList, .float Double.nan), ("Infinity".toList, .float (Double.infinity false)),
    ("-Infinity".toList, .float (Double.infinity true))]

/-- The entries with the value put under the key of these code points. -/
def putUnder (points : List Nat) (value : Json) (entries : Entries) : Entries :=
  entries.put (shown points) (if isText points then value else .torn points)

mutual

/-- A document at the start of the characters. The fuel bounds the number of steps; one more than twice the
length of the text is enough, since an opening bracket takes two steps. -/
def value (reach : Nat) : Nat → List Char → Scan (Json × List Char)
  | 0, s => .error (.value, s.length)
  | fuel + 1, s =>
    match s with
    | [] => .error (.value, 0)
    | '"' :: rest => do
      let (points, rest) ← text rest
      return (ofPoints points, rest)
    | '[' :: rest =>
      if reach = 0 then .error (.tooDeep true, rest.length + 1)
      else match skipSpace rest with
        | ']' :: rest => .ok (.arr [], rest)
        | rest => do
          let (items, rest) ← items (reach - 1) fuel rest
          return (.arr items, rest)
    | '\x7b' :: rest =>
      if reach = 0 then .error (.tooDeep false, rest.length + 1)
      else match skipSpace rest with
        | '\x7d' :: rest => .ok (.obj [], rest)
        | rest => do
          let (entries, rest) ← entries (reach - 1) fuel [] rest
          return (.obj entries, rest)
    | _ =>
      match words.find? fun word => word.1.isPrefixOf s with
      | some word => .ok (word.2, s.drop word.1.length)
      | none => number s

/-- The items of a list, up to and without its closing bracket. -/
def items (reach : Nat) : Nat → List Char → Scan (List Json × List Char)
  | 0, s => .error (.value, s.length)
  | fuel + 1, s => do
    let (item, rest) ← value reach fuel s
    match skipSpace rest with
    | ']' :: rest => return ([item], rest)
    | ',' :: rest =>
      let (further, rest) ← items reach fuel (skipSpace rest)
      return (item :: further, rest)
    | rest => throw (.comma, rest.length)

/-- The entries of an object put over those read before, up to and without its closing bracket. -/
def entries (reach : Nat) : Nat → Entries → List Char → Scan (Entries × List Char)
  | 0, _, s => .error (.key, s.length)
  | fuel + 1, before, s =>
    match s with
    | '"' :: rest => do
      let (key, rest) ← text rest
      match skipSpace rest with
      | ':' :: rest =>
        let (v, rest) ← value reach fuel (skipSpace rest)
        let sofar := putUnder key v before
        match skipSpace rest with
        | '\x7d' :: rest => return (sofar, rest)
        | ',' :: rest => entries reach fuel sofar (skipSpace rest)
        | rest => throw (.comma, rest.length)
      | rest => throw (.colon, rest.length)
    | _ => .error (.key, s.length)

end

end Parser

/-- How deep brackets may nest for a reader with a usual stack. -/
def usualReach : Nat := 900

/-- The document a text stands for, unless its brackets nest too deep. -/
def parse (reach : Nat) (s : String) : Except Fault Json :=
  let cs := s.toList
  let place := fun (refusal : Fault.Cause × Nat) => Fault.mk refusal.1 (cs.length - refusal.2)
  if cs.head? = some '\ufeff' then .error ⟨.mark, 0⟩
  else match Parser.value reach (2 * cs.length + 1) (Parser.skipSpace cs) with
    | .error refusal => .error (place refusal)
    | .ok (j, rest) =>
      match Parser.skipSpace rest with
      | [] => .ok j
      | rest => .error (place (.trailing, rest.length))

end Bestiary.Json
