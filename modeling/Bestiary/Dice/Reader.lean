import Bestiary.Dice.Notation
import Bestiary.Text.Digit
/-!
# Reading dice notation

A notation is read by recursive descent. Comparisons bind weakest, then sums, then products, then signs.
Space may follow an operand, an operator, a sign, a comma and an opening parenthesis, but nothing may
precede the first operand. The level inside parentheses is a parameter of all the others, so only `depth`
recurses.
-/
namespace Bestiary.Dice

/-- Why a text is not a notation. -/
inductive Reader.Fault where
  | grammar
  /-- A number has more digits than are read. -/
  | tooManyDigits (count : Nat)
  deriving DecidableEq, Repr

namespace Reader

/-- Reads something from the start of the characters and answers it with the rest. -/
abbrev Scan (α : Type) := List Char → Except Fault (α × List Char)

/-- Whether the character is space between tokens. -/
def isSpace (c : Char) : Bool := c = ' ' || c = '\t' || c = '\x0c' || c = '\r' || c = '\n'

/-- The characters after any space. -/
def skipSpace (s : List Char) : List Char := s.dropWhile isSpace

/-- The digits at the start, and the rest. -/
def digits (s : List Char) : List Char × List Char := (s.takeWhile Text.isAsciiDigit, s.dropWhile Text.isAsciiDigit)

/-- The whole number that these digits write. -/
def wholeOf (ds : List Char) : Except Fault Nat :=
  if Text.digitLimit < ds.length then .error (.tooManyDigits ds.length) else .ok (Text.natOfDigits ds)

def whole : Scan Nat := fun s =>
  match digits s with
  | ([], _) => .error .grammar
  | (ds, rest) => do
    let n ← wholeOf ds
    return (n, rest)

/-- The word of a table that the characters start with, and what it stands for. -/
def word? {α : Type} (table : List (String × α)) (s : List Char) : Option (α × List Char) :=
  table.findSome? fun entry =>
    if entry.1.toList.isPrefixOf s then some (entry.2, s.drop entry.1.length) else none

/-- The letters and signs of picks. -/
def picks : List (String × Pick) := [("l", .lowest), ("h", .highest), ("<", .below), (">", .above)]

def selector : Scan Selector := fun s => do
  let (pick, rest) := (word? picks s).getD (.equal, s)
  let (n, rest) ← whole rest
  return (⟨pick, n⟩, rest)

/-- The names of the adjustments of a set. -/
def setAdjustments : List (String × Adjustment.Kind) := [("k", .keep), ("p", .drop)]

/-- The names of the adjustments of dice. -/
def diceAdjustments : List (String × Adjustment.Kind) :=
  [("rr", .reroll), ("ro", .rerollOnce), ("ra", .explodeOnce), ("e", .explode), ("mi", .least), ("ma", .most),
    ("k", .keep), ("p", .drop)]

/-- The adjustments at the start, at most so many. -/
def adjustmentsUpTo (names : List (String × Adjustment.Kind)) : Nat → Scan (List Adjustment)
  | 0, s => .ok ([], s)
  | fuel + 1, s =>
    match word? names s with
    | none => .ok ([], s)
    | some (kind, rest) => do
      let (sel, rest) ← selector rest
      let (further, rest) ← adjustmentsUpTo names fuel rest
      return (⟨kind, [sel]⟩ :: further, rest)

/-- The adjustments at the start, merged. -/
def adjustments (names : List (String × Adjustment.Kind)) : Scan (List Adjustment) := fun s => do
  let (all, rest) ← adjustmentsUpTo names s.length s
  return (Adjustment.merge all, rest)

/-- The sides after the letter `d`. -/
def sides : Scan Sides := fun s =>
  match s with
  | '%' :: rest => .ok (.percent, rest)
  | _ => do
    let (n, rest) ← whole s
    return (.faces n, rest)

/-- So many dice, from the characters after the letter `d`. -/
def diceAfter (count : Nat) : Scan Notation := fun s => do
  let (sides, rest) ← sides s
  let (adjs, rest) ← adjustments diceAdjustments rest
  return (.dice count sides adjs, rest)

/-- The number written by digits with a point after or before the last of them. -/
def decimalOf (before after : List Char) : Notation :=
  .number (.real (Number.Double.ofDecimal false (Text.natOfDigits (before ++ after)) (-(after.length : Int))))

/-- A number, or dice. -/
def numeral : Scan Notation := fun s =>
  match digits s with
  | ([], 'd' :: rest) => diceAfter 1 rest
  | ([], '.' :: rest) =>
    match digits rest with
    | ([], _) => .error .grammar
    | (after, rest) => .ok (decimalOf [] after, rest)
  | ([], _) => .error .grammar
  | (before, '.' :: rest) => .ok (decimalOf before (digits rest).1, (digits rest).2)
  | (ds, 'd' :: rest) => do
    let n ← wholeOf ds
    diceAfter n rest
  | (ds, rest) => do
    let n ← wholeOf ds
    return (.number (.whole n), rest)

/-- The members of a set after its first one, at most so many, up to its closing parenthesis; whether the last
comma has nothing after it. -/
def members (inner : Scan Notation) : Nat → Scan (List Notation × Bool)
  | 0, _ => .error .grammar
  | fuel + 1, s =>
    match s with
    | ')' :: rest => .ok (([], false), rest)
    | ',' :: rest =>
      match skipSpace rest with
      | ')' :: rest => .ok (([], true), rest)
      | rest => do
        let (member, rest) ← inner rest
        let ((further, comma), rest) ← members inner fuel rest
        return ((member :: further, comma), rest)
    | _ => .error .grammar

/-- What stands in parentheses, from the characters after the opening one: a group if it is one notation
without a comma, else a set. -/
def parenthesized (inner : Scan Notation) : Scan Notation := fun s =>
  match skipSpace s with
  | ')' :: rest => do
    let (adjs, rest) ← adjustments setAdjustments rest
    return (.set [] adjs, rest)
  | s => do
    let (first, rest) ← inner s
    let ((further, comma), rest) ← members inner s.length rest
    let (adjs, rest) ← adjustments setAdjustments rest
    if further.isEmpty && !comma then return (.group first adjs, rest)
    else return (.set (first :: further) adjs, rest)

/-- The characters after the labels at the start, of which there are at most so many. A label is what stands
between a bracket and the next closing one on its line. -/
def skipLabels : Nat → List Char → Except Fault (List Char)
  | 0, s => .ok s
  | fuel + 1, s =>
    match s with
    | '[' :: rest =>
      match rest.dropWhile fun c => c ≠ ']' && c ≠ '\n' with
      | ']' :: rest => skipLabels fuel (skipSpace rest)
      | _ => .error .grammar
    | _ => .ok s

/-- An operand without a sign, together with the space and the labels after it. -/
def operand (inner : Scan Notation) : Scan Notation := fun s => do
  let (n, rest) ← match s with
    | '(' :: rest => parenthesized inner rest
    | _ => numeral s
  let rest ← skipLabels rest.length (skipSpace rest)
  return (n, rest)

/-- An operand with at most so many signs. -/
def signedUpTo (inner : Scan Notation) : Nat → Scan Notation
  | 0, s => operand inner s
  | fuel + 1, s =>
    match s with
    | '+' :: rest => do
      let (n, rest) ← signedUpTo inner fuel (skipSpace rest)
      return (.signed false n, rest)
    | '-' :: rest => do
      let (n, rest) ← signedUpTo inner fuel (skipSpace rest)
      return (.signed true n, rest)
    | _ => operand inner s

/-- An operand with its signs. -/
def signed (inner : Scan Notation) : Scan Notation := fun s => signedUpTo inner s.length s

/-- What is read so far, joined from the left with at most so many operands after it. -/
def joinUpTo (operations : List (String × Operation)) (next : Scan Notation) : Nat → Notation → Scan Notation
  | 0, left, s => .ok (left, s)
  | fuel + 1, left, s =>
    match word? operations s with
    | none => .ok (left, s)
    | some (operation, rest) => do
      let (right, rest) ← next (skipSpace rest)
      joinUpTo operations next fuel (.binary left operation right) rest

/-- Operands joined from the left by operations of one precedence. -/
def joined (operations : List (String × Operation)) (next : Scan Notation) : Scan Notation := fun s => do
  let (first, rest) ← next s
  joinUpTo operations next rest.length first rest

/-- The signs of products. -/
def productSigns : List (String × Operation) := [("*", .mul), ("//", .floorDiv), ("/", .div), ("%", .floorMod)]

/-- The signs of sums. -/
def sumSigns : List (String × Operation) := [("+", .add), ("-", .sub)]

/-- The signs of comparisons. -/
def comparisonSigns : List (String × Operation) :=
  [("==", .eq), (">=", .ge), ("<=", .le), ("!=", .ne), ("<", .lt), (">", .gt)]

/-- A product of signed operands. -/
def product (inner : Scan Notation) : Scan Notation := joined productSigns (signed inner)

/-- A sum of products. -/
def sum (inner : Scan Notation) : Scan Notation := joined sumSigns (product inner)

/-- A comparison of sums. -/
def comparison (inner : Scan Notation) : Scan Notation := joined comparisonSigns (sum inner)

/-- A notation with parentheses nested less than so deep. -/
def nested : Nat → Scan Notation
  | 0 => fun _ => .error .grammar
  | depth + 1 => comparison (nested depth)

end Reader

/-- The notation that a text writes. -/
def Notation.parse (s : String) : Except Reader.Fault Notation :=
  match Reader.nested (s.length + 1) s.toList with
  | .ok (n, []) => .ok n
  | .ok _ => .error .grammar
  | .error fault => .error fault

end Bestiary.Dice
