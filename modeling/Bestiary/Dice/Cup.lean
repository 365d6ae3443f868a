import Bestiary.Dice.Reader
import Bestiary.Dice.Throw
import Bestiary.Json.Parser
import Bestiary.Text.Blank
import Bestiary.Text.Quoted
/-!
# Rolling

A `Cup` rolls notations, one after the other, with the faces that are handed to it. `roll` answers a `Roll` or
a `Refusal`. `reckon` is for amounts, which are often plain numbers: a number is itself, and a notation that
is refused counts nothing.

Two limits keep a notation from being rolled: a number has at most `Text.digitLimit` digits, which is part of the
reader, and the operators nest no deeper than the stack allows, which is not. Reading, throwing and listing the
dice call themselves once for each operand, and a stack of usual size holds about a thousand of them; here it
is taken to hold any notation.
-/
namespace Bestiary.Dice

/-- What a rolled notation came to. -/
structure Roll where
  text : String
  total : Int
  /-- The numbers on the kept dice, from left to right. -/
  dice : List Nat
  /-- What the total is beyond the sum of the dice. -/
  modifier : Int
  deriving DecidableEq, Repr

/-- Why a text comes to nothing. -/
inductive Cause where
  | grammar
  /-- One of its numbers has more digits than are read. -/
  | tooManyDigits (count : Nat)
  | unthrown (fault : Throw.Fault)
  | noTotal (flaw : Amount.Flaw)
  /-- It looks like a whole number but is none. -/
  | notWhole (text : String)
  deriving DecidableEq, Repr

/-- How a roll is refused. -/
inductive Refusal where
  | blank (text : String)
  | invalid (text : String) (cause : Cause)
  | broken (cause : Cause)
  deriving DecidableEq, Repr

/-- The wording of a flaw. -/
def Amount.Flaw.message : Amount.Flaw → String
  | .divisionByZero => "Cannot divide by zero."
  | .quotientTooLarge => "integer division result too large for a float"
  | .wholeTooLarge => "int too large to convert to float"
  | .infiniteTotal => "cannot convert float infinity to integer"
  | .undefinedTotal => "cannot convert float NaN to integer"

/-- The wording of a fault. -/
def Throw.Fault.message : Throw.Fault → String
  | .noSides => "Cannot roll a 0-sided die."
  | .tooManyDice => "Too many dice rolled."
  | .badBound s least =>
    s.text ++ " is not a valid selector for " ++ (if least then "minimums" else "maximums") ++ "."
  | .flaw cause => cause.message

/-- The wording of a cause. -/
def Cause.message : Cause → String
  | .grammar => "<syntax error>"
  | .tooManyDigits count => (Json.Fault.Cause.tooManyDigits count).message
  | .unthrown fault => fault.message
  | .noTotal flaw => flaw.message
  | .notWhole text =>
    "invalid literal for int() with base 10: " ++ String.ofList ((Text.quoted text).toList.take 200)

namespace Refusal

/-- The wording of a refusal. -/
def message : Refusal → String
  | .blank _ => "Empty dice expression"
  | .invalid _ cause => "Invalid dice expression: " ++ cause.message
  | .broken cause => cause.message

/-- A fault in throwing dice makes the notation invalid, unless numbers got out of range. -/
def ofThrow (text : String) (fault : Throw.Fault) : Refusal :=
  match fault with
  | .flaw .divisionByZero | .noSides | .tooManyDice | .badBound _ _ => .invalid text (.unthrown fault)
  | .flaw flaw => .broken (.noTotal flaw)

/-- The refusal of a text that cannot be read. -/
def ofReader (text : String) : Reader.Fault → Refusal
  | .grammar => .invalid text .grammar
  | .tooManyDigits count => .broken (.tooManyDigits count)

end Refusal

/-- What notations are rolled with. -/
structure Cup where
  /-- The faces that come up in turn, over and over. -/
  faces : List Int
  /-- How many faces have come up. -/
  shown : Nat
  /-- The notations read so far, without their spaces. A text that is one of these but for its spaces is read
  as that notation. -/
  known : List String
  deriving DecidableEq, Repr

namespace Cup

/-- A cup with these faces, from which nothing has been rolled. -/
def ofFaces (faces : List Int) : Cup := ⟨faces, 0, []⟩

/-- The text without its spaces. -/
def withoutSpaces (s : String) : String := String.ofList (s.toList.filter (· ≠ ' '))

/-- The notation that a text writes. -/
def read (cup : Cup) (text : String) : Except Reader.Fault Notation :=
  let key := withoutSpaces text
  Notation.parse (if cup.known.contains key then key else text)

/-- The cup after the text was read. -/
def learn (cup : Cup) (text : String) : Cup :=
  let key := withoutSpaces text
  if cup.known.contains key then cup else { cup with known := cup.known ++ [key] }

/-- The roll of a thrown notation. -/
def settle (text : String) (r : Rolled) : Except Refusal Roll :=
  match r.total with
  | .error flaw => .error (.broken (.noTotal flaw))
  | .ok amount =>
    match amount.toTotal with
    | .error flaw => .error (.broken (.noTotal flaw))
    | .ok total => .ok ⟨text, total, r.keptDice, total - (r.keptDice.foldr (· + ·) 0 : Nat)⟩

def roll (text : String) : Act Cup Refusal Roll := fun cup =>
  if Text.isBlankText text then (.error (.blank text), cup)
  else
    match cup.read text with
    | .error fault => (.error (.ofReader text fault), cup)
    | .ok n =>
      let (thrown, hand) := n.thrown.run ⟨cup.faces, cup.shown, 0⟩
      let cup := { cup.learn text with shown := hand.shown }
      match thrown with
      | .error fault => (.error (.ofThrow text fault), cup)
      | .ok r => (settle text r, cup)

/-- Rolls one die with so many sides. -/
def rollDie (sides : Int) : Act Cup Refusal Roll := roll ("1d" ++ toString sides)

/-- The whole number that a run of digits of any script writes after a sign. -/
def wholeOf (text : String) : Except Cause Int :=
  let (negative, digits) := match text.toList with
    | '-' :: rest => (true, rest)
    | '+' :: rest => (false, rest)
    | rest => (false, rest)
  let values := digits.map Text.decimalValue?
  let leading := (values.takeWhile Option.isSome).length
  if Text.digitLimit < leading then .error (.tooManyDigits leading)
  else if leading = digits.length ∧ digits ≠ [] then
    let n : Int := values.foldl (fun n v => 10 * n + (v.getD 0 : Nat)) 0
    .ok (if negative then -n else n)
  else .error (.notWhole text)

/-- Whether a text consists of signs and then digits of any script. -/
def looksWhole (text : String) : Bool :=
  let digits := text.toList.dropWhile fun c => c = '+' || c = '-'
  !digits.isEmpty && digits.all Text.isDigit

/-- What the text of an amount came to. -/
inductive Reckoning where
  | plain (n : Int)
  | rolled (roll : Roll)
  | refused (text : String) (refusal : Refusal)
  deriving DecidableEq, Repr

def Reckoning.amount : Reckoning → Int
  | .plain n => n
  | .rolled roll => roll.total
  | .refused _ _ => 0

/-- Reckons the text of an amount. -/
def reckon (text : String) : Act Cup Cause Reckoning := fun cup =>
  let trimmed := Text.trim text
  if looksWhole trimmed then (Reckoning.plain <$> wholeOf trimmed, cup)
  else
    match (roll trimmed).run cup with
    | (.ok r, cup) => (.ok (.rolled r), cup)
    | (.error (.broken cause), cup) => (.error cause, cup)
    | (.error refusal, cup) => (.ok (.refused text refusal), cup)

end Cup

end Bestiary.Dice
