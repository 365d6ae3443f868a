import Bestiary.Intake
import Bestiary.Label
import Bestiary.Tag
/-!
# Single values

How numbers, texts, truth values, words of a vocabulary and moments are read. Numbers and truth values are
read generously: from texts that write them, from each other, and from doubles that are whole.
-/
namespace Bestiary

open Number (Double)

namespace Intake

/-- The digits, unless an underscore stands anywhere but singly between two of them. -/
def ungrouped? (cs : List Char) : Option (List Char) :=
  let spaced := cs.head? == some '_' || cs.getLast? == some '_' || (cs.zip cs.tail).contains ('_', '_')
  let ds := cs.filter (· ≠ '_')
  if spaced || ds.isEmpty || !ds.all Text.isAsciiDigit then none else some ds

/-- The characters before a point that only zeros follow. -/
def withoutZeroFraction (cs : List Char) : List Char :=
  match cs.dropWhile (· ≠ '.') with
  | _ :: zeros => if zeros.all (· = '0') then cs.takeWhile (· ≠ '.') else cs
  | [] => cs

/-- The integer that a text writes: a sign, and digits that may be grouped by underscores and followed by a
point and zeros. -/
def intOfText (s : String) : Except Issue.Cause Int :=
  let cs := Text.stripBoth Text.isSpace s.toList
  let (negative, cs) := match cs with
    | '-' :: rest => (true, rest)
    | '+' :: rest => (false, rest)
    | _ => (false, cs)
  match ungrouped? (withoutZeroFraction cs) with
  | none => .error .intParsing
  | some ds =>
    let ds := ds.dropWhile (· = '0')
    if Text.digitLimit < ds.length then .error .intParsingSize
    else
      let n : Int := Text.natOfDigits ds
      .ok (if negative then -n else n)

/-- The integer that a double equals. Doubles beyond 64 bits are not taken for integers. -/
def intOfDouble (x : Double) : Except Issue.Cause Int :=
  match x.fraction? with
  | none => .error .finiteNumber
  | some _ =>
    match x.toInt? with
    | none => .error .intFromFloat
    | some n => if n.natAbs < Nat.pow 2 63 then .ok n else .error .intParsingSize

def intOf : Json → Except Issue.Cause Int
  | .int n => .ok n
  | .bool b => .ok (if b then 1 else 0)
  | .float x => intOfDouble x
  | .str s => intOfText s
  | .torn _ => .error .stringUnicode
  | _ => .error .intType

def int (j : Json) : Intake Int := ofExcept (intOf j)

/-- An integer that is at least the bound. -/
def atLeast (bound : Nat) (n : Int) : Except Issue.Cause Nat :=
  if bound ≤ n then .ok n.toNat else .error (.greaterThanEqual bound)

def nat (j : Json) : Intake Nat := check (int j) (atLeast 0)

/-- A text. A torn one is taken as it shows. -/
def text : Json → Intake String
  | .str s => Intake.pure s
  | .torn points => Intake.pure (Json.shown points)
  | _ => issue .stringType

/-- A text of characters. -/
def wholeText : Json → Intake String
  | .torn _ => issue .stringUnicode
  | j => text j

/-- A text that is not empty. -/
def label (j : Json) : Intake Label :=
  check (wholeText j) fun s =>
    match Label.ofText? s with
    | some l => .ok l
    | none => .error (.stringTooShort 1)

/-- A text of one to `most` characters. -/
def name (most : Nat) (j : Json) : Intake (Name most) :=
  check (wholeText j) fun s =>
    if h : s ≠ "" ∧ s.length ≤ most then .ok ⟨s, h⟩
    else .error (if s = "" then .stringTooShort 1 else .stringTooLong most)

/-- The texts that stand for truth values. -/
def truthWords : List (String × Bool) :=
  [("0", false), ("off", false), ("f", false), ("false", false), ("n", false), ("no", false),
    ("1", true), ("on", true), ("t", true), ("true", true), ("y", true), ("yes", true)]

/-- A truth value. What is no integer of 64 bits is not taken for one. -/
def boolOf : Json → Except Issue.Cause Bool
  | .bool b => .ok b
  | .int n =>
    if n = 0 then .ok false else if n = 1 then .ok true
    else .error (if Moment.fitsWord n then .boolParsing else .boolType)
  | .float x =>
    match intOfDouble x with
    | .ok n => if n = 0 then .ok false else if n = 1 then .ok true else .error .boolParsing
    | .error _ => .error .boolType
  | .str s =>
    match truthWords.lookup (String.ofList (s.toList.map Char.toLower)) with
    | some b => .ok b
    | none => .error .boolParsing
  | .torn _ => .error .stringUnicode
  | _ => .error .boolType

def bool (j : Json) : Intake Bool := ofExcept (boolOf j)

/-- A word of a vocabulary. -/
def tagOf {α : Type} [Tag α] : Json → Except Issue.Cause α
  | .str s =>
    match Tag.ofName? s with
    | some a => .ok a
    | none => .error (.enum (Tag.names α))
  | _ => .error (.enum (Tag.names α))

def tag {α : Type} [Tag α] (j : Json) : Intake α := ofExcept (tagOf j)

/-- An ability, by its name or its abbreviation. -/
def abilityOf : Json → Except Issue.Cause Ability
  | .str s =>
    match Ability.parse? s with
    | some a => .ok a
    | none => .error (.value (Ability.unknown (Text.quoted s)))
  | .torn points => .error (.value (Ability.unknown (Text.quotedPoints points)))
  | _ => .error (.enum (Tag.names Ability))

def ability (j : Json) : Intake Ability := ofExcept (abilityOf j)

def momentOf : Json → Except Issue.Cause Moment
  | .str s =>
    match Moment.parse? s with
    | some m => .ok m
    | none => .error .datetimeFromDateParsing
  | .int n =>
    if Moment.fitsWord n then
      match Moment.ofCount? n 0 with
      | some m => .ok m
      | none => .error .datetimeParsing
    else if (Double.ofInt n).isInfinite then .error .datetimeType
    else .error .datetimeParsing
  | .float x =>
    match Moment.ofDouble? x with
    | some m => .ok m
    | none => .error .datetimeParsing
  | .torn _ => .error .stringUnicode
  | _ => .error .datetimeType

def moment (j : Json) : Intake Moment := ofExcept (momentOf j)

/-- Any value, as it is. -/
def free (j : Json) : Intake Json := Intake.pure j

/-- Null, or a value. -/
def nullable {α : Type} (read : Json → Intake α) : Json → Intake (Option α)
  | .null => Intake.pure none
  | j => Intake.map some (read j)

def list {α : Type} (read : Json → Intake α) : Json → Intake (List α)
  | .arr items => itemsFrom read 0 items
  | _ => issue .listType

end Intake

end Bestiary
