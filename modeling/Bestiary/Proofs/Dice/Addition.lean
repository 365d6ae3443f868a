import Mathlib.Data.Nat.Digits.Defs
import Bestiary.Proofs.Dice.Spaces
import Bestiary.Proofs.Json.Numeral
/-!
# Addition — numbers and dice that are added up

An addition is written without spaces: numbers, each with a sign of its own or without, and dice, joined by plus and
minus.  Dice are never taken away.  It is read as it is written, joined from the left (`Addition.parse`), unless one of
its numbers has more digits than are read.
-/
namespace Bestiary.Dice

/-- Digits that write a whole number. -/
structure Numeral where
  digits : List Char
  given : digits ≠ []
  ascii : ∀ c ∈ digits, Text.isAsciiDigit c = true

namespace Numeral

def value (n : Numeral) : Nat := Text.natOfDigits n.digits

/-- No more digits than are read. -/
def Short (n : Numeral) : Prop := n.digits.length ≤ Text.digitLimit

instance (n : Numeral) : Decidable n.Short := inferInstanceAs (Decidable (_ ≤ _))

def ofNat (n : Nat) : Numeral := ⟨Nat.toDigits 10 n, Nat.toDigits_ne_nil, Text.isAsciiDigit_of_mem_toDigits⟩

@[simp] theorem value_ofNat (n : Nat) : (ofNat n).value = n := Text.natOfDigits_toDigits n

theorem short_ofNat {n : Nat} (small : n < 10 ^ Text.digitLimit) : (ofNat n).Short :=
  Nat.toDigits_length 10 n Text.digitLimit (by decide) small

end Numeral

/-- Dice of one kind: how many of them, one if it is not said, and how many sides they have. -/
structure Pool where
  count : Option Numeral
  sides : Numeral
  some_dice : ∀ n ∈ count, 0 < n.value
  some_sides : 0 < sides.value

namespace Pool

def dice (p : Pool) : Nat := p.count.elim 1 Numeral.value

def chars (p : Pool) : List Char := p.count.elim [] Numeral.digits ++ 'd' :: p.sides.digits

def Short (p : Pool) : Prop := (∀ n ∈ p.count, n.Short) ∧ p.sides.Short

instance (p : Pool) : Decidable p.Short := inferInstanceAs (Decidable (_ ∧ _))

end Pool

def signChar (negative : Bool) : Char := if negative then '-' else '+'

/-- A number or dice, with a sign or without one. -/
inductive Term where
  | number (sign : Option Bool) (n : Numeral)
  /-- Dice, which are not made negative. -/
  | dice (plus : Bool) (p : Pool)

namespace Term

/-- Whether the term is made negative, if it has a sign. -/
def sign : Term → Option Bool
  | number sign _ => sign
  | dice plus _ => if plus then some false else none

/-- The characters behind the sign. -/
def bare : Term → List Char
  | number _ n => n.digits
  | dice _ p => p.chars

def chars (t : Term) : List Char := t.sign.elim [] (fun negative => [signChar negative]) ++ t.bare

/-- What is read behind the sign. -/
def unsigned : Term → Notation
  | number _ n => .number (.whole n.value)
  | dice _ p => .dice p.dice (.faces p.sides.value) []

def meaning (t : Term) : Notation := t.sign.elim t.unsigned fun negative => .signed negative t.unsigned

def sides : Term → List Nat
  | number _ _ => []
  | dice _ p => List.replicate p.dice p.sides.value

/-- What the term comes to besides its dice. -/
def modifier : Term → Int
  | number sign n => if sign = some true then -n.value else n.value
  | dice _ _ => 0

def Short : Term → Prop
  | number _ n => n.Short
  | dice _ p => p.Short

instance : (t : Term) → Decidable t.Short
  | number _ n => inferInstanceAs (Decidable n.Short)
  | dice _ p => inferInstanceAs (Decidable p.Short)

end Term

/-- A term that is added, or a number that is taken away. -/
inductive Addend where
  | plus (t : Term)
  | minus (sign : Option Bool) (n : Numeral)

namespace Addend

def negative : Addend → Bool
  | plus _ => false
  | minus _ _ => true

def term : Addend → Term
  | plus t => t
  | minus sign n => .number sign n

def chars (a : Addend) : List Char := signChar a.negative :: a.term.chars

def operation (a : Addend) : Operation := if a.negative then .sub else .add

def modifier (a : Addend) : Int := if a.negative then -a.term.modifier else a.term.modifier

end Addend

/-- **Numbers and dice that are added up**, written without spaces. -/
structure Addition where
  first : Term
  rest : List Addend

namespace Addition

def chars (x : Addition) : List Char := x.first.chars ++ x.rest.flatMap Addend.chars

def text (x : Addition) : String := String.ofList x.chars

/-- The terms joined from the left. -/
def meaning (x : Addition) : Notation :=
  x.rest.foldl (fun left a => .binary left a.operation a.term.meaning) x.first.meaning

/-- The sides of each of the dice, from left to right. -/
def sides (x : Addition) : List Nat := x.first.sides ++ x.rest.flatMap fun a => a.term.sides

def modifier (x : Addition) : Int := x.first.modifier + (x.rest.map Addend.modifier).sum

/-- No number has more digits than are read. -/
def Short (x : Addition) : Prop := x.first.Short ∧ ∀ a ∈ x.rest, a.term.Short

instance (x : Addition) : Decidable x.Short := inferInstanceAs (Decidable (_ ∧ _))

/-- One die with so many sides. -/
def die (sides : Numeral) (positive : 0 < sides.value) : Addition :=
  ⟨.dice false ⟨some (.ofNat 1), sides, by simp, positive⟩, []⟩

end Addition

/-! ## Characters -/

namespace Reader

/-- Whether an operand without a sign can begin with a character, other than in parentheses. -/
def isBare (c : Char) : Bool := Text.isAsciiDigit c || c = 'd'

theorem bare_cases {c : Char} (bare : isBare c = true) : Text.isAsciiDigit c = true ∨ c = 'd' := by
  simpa [isBare] using bare

theorem isStart_of_bare {c : Char} (bare : isBare c = true) : isStart c = true := by
  rcases bare_cases bare with digit | rfl
  · exact isStart_of_digit digit
  · decide

/-- A character that is none of those in the list, as it is a digit or the letter of dice. -/
theorem ne_of_bare {c x : Char} (bare : isBare c = true) (other : isBare x = false) : c ≠ x := by
  rintro rfl
  rw [bare] at other
  cases other

theorem unsigned_of_bare {c : Char} (bare : isBare c = true) : negative? c = none := by
  unfold negative?
  split
  · exact absurd rfl (ne_of_bare bare (by decide))
  · exact absurd rfl (ne_of_bare bare (by decide))
  · rfl

theorem isStart_signChar (negative : Bool) : isStart (signChar negative) = true := by cases negative <;> decide

theorem skipSpace_start {c : Char} (start : isStart c = true) (s : List Char) : skipSpace (c :: s) = c :: s := by
  have solid : isSpace c = false := by
    rw [← Bool.not_eq_true]
    intro space
    simp only [isSpace, Bool.or_eq_true, decide_eq_true_eq] at space
    rcases space with (((rfl | rfl) | rfl) | rfl) | rfl <;> exact absurd start (by decide)
  rw [skipSpace, List.dropWhile_cons_of_neg (by rw [solid]; exact Bool.false_ne_true)]

/-- Between terms, or behind the last one. -/
def Between (rest : List Char) : Prop := Before ['+', '-'] rest

theorem between_cases {rest : List Char} (between : Between rest) :
    rest = [] ∨ ∃ negative t, rest = signChar negative :: t := by
  cases rest with
  | nil => exact .inl rfl
  | cons c t =>
    have sign := between c rfl
    simp at sign
    rcases sign with rfl | rfl
    · exact .inr ⟨false, t, rfl⟩
    · exact .inr ⟨true, t, rfl⟩

theorem between_chars (as : List Addend) : Between (as.flatMap Addend.chars) := by
  intro c first
  cases as with
  | nil => cases first
  | cons a as =>
    cases first
    cases a.negative <;> decide

/-! ## Numbers and dice -/

theorem digits_numeral (n : Numeral) {rest : List Char} (stop : ∀ c ∈ rest.head?, Text.isAsciiDigit c = false) :
    digits (n.digits ++ rest) = (n.digits, rest) := by
  have head : rest.takeWhile Text.isAsciiDigit = [] ∧ rest.dropWhile Text.isAsciiDigit = rest := by
    cases rest with
    | nil => exact ⟨rfl, rfl⟩
    | cons c rest => simp [stop c rfl]
  rw [digits, List.takeWhile_append_of_pos n.ascii, List.dropWhile_append_of_pos n.ascii, head.1, head.2,
    List.append_nil]

theorem undigited_of_between {rest : List Char} (between : Between rest) :
    ∀ c ∈ rest.head?, Text.isAsciiDigit c = false := by
  intro c first
  have sign := between c first
  simp at sign
  rcases sign with rfl | rfl <;> decide

theorem wholeOf_numeral {n : Numeral} (short : n.Short) : wholeOf n.digits = .ok n.value := by
  rw [wholeOf, if_neg (Nat.not_lt.2 short)]
  rfl

theorem whole_numeral {n : Numeral} (short : n.Short) {rest : List Char}
    (stop : ∀ c ∈ rest.head?, Text.isAsciiDigit c = false) : whole (n.digits ++ rest) = .ok (n.value, rest) := by
  have read := wholeOf_numeral short
  rw [whole, digits_numeral n stop]
  obtain ⟨c, ds, digits⟩ := List.exists_cons_of_ne_nil n.given
  rw [digits] at read ⊢
  simp only [read]
  rfl

theorem numeral_number {n : Numeral} (short : n.Short) {rest : List Char} (between : Between rest) :
    numeral (n.digits ++ rest) = .ok (.number (.whole n.value), rest) := by
  have read := wholeOf_numeral short
  rw [numeral, digits_numeral n (undigited_of_between between)]
  obtain ⟨c, ds, digits⟩ := List.exists_cons_of_ne_nil n.given
  rw [digits] at read ⊢
  rcases between_cases between with rfl | ⟨negative, t, rfl⟩
  · simp only [read]
    rfl
  · cases negative <;> simp [signChar, read]

theorem adjustments_none {rest : List Char} (between : Between rest) :
    adjustments diceAdjustments rest = .ok ([], rest) := by
  have none : word? diceAdjustments rest = none := word?_none names_dice.heads fun c first => by
    have sign := between c first
    simp at sign
    rcases sign with rfl | rfl <;> decide
  rw [adjustments]
  cases rest with
  | nil => rfl
  | cons c t =>
    rw [List.length_cons, adjustmentsUpTo, none]
    rfl

theorem sides_numeral (n : Numeral) (rest : List Char) :
    sides (n.digits ++ rest) = (whole (n.digits ++ rest)).map fun read => (.faces read.1, read.2) := by
  obtain ⟨c, ds, digits⟩ := List.exists_cons_of_ne_nil n.given
  have digit := n.ascii c (by rw [digits]; exact List.mem_cons_self)
  rw [digits, sides.eq_def]
  split
  · rename_i same
    cases same
    exact absurd digit (by decide)
  · cases whole (c :: ds ++ rest) <;> rfl

theorem diceAfter_numeral (count : Nat) {n : Numeral} (short : n.Short) {rest : List Char} (between : Between rest) :
    diceAfter count (n.digits ++ rest) = .ok (.dice count (.faces n.value) [], rest) := by
  rw [diceAfter, sides_numeral, whole_numeral short (undigited_of_between between)]
  simp only [Except.map, bind, Except.bind, adjustments_none between]
  rfl

theorem diceAfter_overlong (count : Nat) {n : Numeral} (long : Text.digitLimit < n.digits.length) :
    diceAfter count n.digits = .error (.tooManyDigits n.digits.length) := by
  have read : whole n.digits = .error (.tooManyDigits n.digits.length) := by
    have all : digits (n.digits ++ []) = (n.digits, []) := digits_numeral n nofun
    have refused : wholeOf n.digits = .error (.tooManyDigits n.digits.length) := if_pos long
    rw [List.append_nil] at all
    rw [whole, all]
    obtain ⟨c, ds, digits⟩ := List.exists_cons_of_ne_nil n.given
    rw [digits] at refused ⊢
    simp only [refused]
    rfl
  have sided := sides_numeral n []
  rw [List.append_nil, read] at sided
  rw [diceAfter, sided]
  rfl

/-- Dice begin with how many they are, if it is said, and the letter. -/
theorem numeral_pool {p : Pool} (counted : ∀ n ∈ p.count, n.Short) (rest : List Char) :
    numeral (p.chars ++ rest) = diceAfter p.dice (p.sides.digits ++ rest) := by
  rw [numeral, Pool.chars, Pool.dice]
  cases count : p.count with
  | none => rfl
  | some n =>
    have read := wholeOf_numeral (counted n count)
    have stop : ∀ c ∈ ('d' :: p.sides.digits ++ rest).head?, Text.isAsciiDigit c = false := by
      rintro c ⟨⟩
      decide
    rw [Option.elim_some, Option.elim_some, List.append_assoc, digits_numeral n stop]
    obtain ⟨c, ds, digits⟩ := List.exists_cons_of_ne_nil n.given
    rw [digits] at read ⊢
    simp only [List.cons_append, read]
    rfl

/-! ## Terms -/

theorem bare_head (t : Term) : ∃ c s, t.bare = c :: s ∧ isBare c = true := by
  have number (n : Numeral) (rest : List Char) : ∃ c s, n.digits ++ rest = c :: s ∧ isBare c = true := by
    obtain ⟨c, ds, digits⟩ := List.exists_cons_of_ne_nil n.given
    refine ⟨c, ds ++ rest, by rw [digits]; rfl, ?_⟩
    rw [isBare, n.ascii c (by rw [digits]; exact List.mem_cons_self), Bool.true_or]
  cases t with
  | number sign n => simpa [Term.bare] using number n []
  | dice plus p =>
    rw [Term.bare, Pool.chars]
    cases p.count with
    | none => exact ⟨'d', p.sides.digits, rfl, by decide⟩
    | some n => exact number n _

theorem labelled_between (m : Notation) {rest : List Char} (between : Between rest) :
    labelled (m, rest) = .ok (m, rest) := by
  rcases between_cases between with rfl | ⟨negative, t, rfl⟩
  · rfl
  · cases negative <;> rfl

theorem numeral_bare {t : Term} (short : t.Short) {rest : List Char} (between : Between rest) :
    numeral (t.bare ++ rest) = .ok (t.unsigned, rest) := by
  cases t with
  | number sign n => exact numeral_number short between
  | dice plus p =>
    rw [Term.bare, numeral_pool short.1]
    exact diceAfter_numeral p.dice short.2 between

section Levels

variable (inner : Scan Notation)

theorem operand_bare {t : Term} (short : t.Short) {rest : List Char} (between : Between rest) :
    operand inner (t.bare ++ rest) = .ok (t.unsigned, rest) := by
  obtain ⟨c, s, chars, bare⟩ := bare_head t
  have first : (t.bare ++ rest).head? ≠ some '(' := by
    rw [chars]
    exact fun same => ne_of_bare bare (by decide) (Option.some.inj same)
  rw [operand_numeral first, numeral_bare short between]
  exact labelled_between t.unsigned between

theorem signedUpTo_bare {t : Term} (short : t.Short) {rest : List Char} (between : Between rest) (fuel : Nat) :
    signedUpTo inner fuel (t.bare ++ rest) = .ok (t.unsigned, rest) := by
  cases fuel with
  | zero => exact operand_bare inner short between
  | succ fuel =>
    have operand := operand_bare inner short between
    obtain ⟨c, s, chars, bare⟩ := bare_head t
    rw [chars] at operand ⊢
    exact (signedUpTo_unsigned (unsigned_of_bare bare) inner fuel (s ++ rest)).trans operand

theorem signed_term {t : Term} (short : t.Short) {rest : List Char} (between : Between rest) :
    signed inner (t.chars ++ rest) = .ok (t.meaning, rest) := by
  have bare := signedUpTo_bare inner short between
  unfold signed Term.chars Term.meaning
  cases t.sign with
  | none => exact bare _
  | some negative =>
    -- Behind a sign blanks are passed over, and a term does not begin with one.
    have solid : skipSpace (t.bare ++ rest) = t.bare ++ rest := by
      obtain ⟨c, s, chars, first⟩ := bare_head t
      rw [chars]
      exact skipSpace_start (isStart_of_bare first) _
    have sign : negative? (signChar negative) = some negative := by cases negative <;> rfl
    have read := signedUpTo_sign sign inner (t.bare ++ rest).length (t.bare ++ rest)
    rw [solid, bare] at read
    exact read

theorem product_term {t : Term} (short : t.Short) {rest : List Char} (between : Between rest) :
    product inner (t.chars ++ rest) = .ok (t.meaning, rest) := by
  -- A term ends at a plus, at a minus or with the text, so there is no factor to join.
  have none : word? productSigns rest = none :=
    word?_none (p := fun c => c ∉ ['+', '-']) (by decide) fun c first => by simp [between c first]
  rw [product, joined, signed_term inner short between]
  cases rest with
  | nil => rfl
  | cons c t =>
    simp only [bind, Except.bind, List.length_cons, joinUpTo, none]

/-! ## Additions -/

theorem term_head (t : Term) : ∃ c s, t.chars = c :: s ∧ isStart c = true := by
  obtain ⟨c, s, chars, bare⟩ := bare_head t
  unfold Term.chars
  cases t.sign with
  | none => exact ⟨c, s, chars, isStart_of_bare bare⟩
  | some negative => exact ⟨signChar negative, t.bare, rfl, isStart_signChar negative⟩

theorem word?_addend (a : Addend) (s : List Char) :
    word? sumSigns (signChar a.negative :: s) = some (a.operation, s) := by
  cases a <;> rfl

/-- Addends are joined from the left, as long as the fuel lasts. -/
theorem joinUpTo_addends : ∀ (as : List Addend) (fuel : Nat) (left : Notation), (∀ a ∈ as, a.term.Short) →
    as.length ≤ fuel → joinUpTo sumSigns (product inner) fuel left (as.flatMap Addend.chars) =
      .ok (as.foldl (fun left a => .binary left a.operation a.term.meaning) left, [])
  | [], fuel, left, _, _ => by
    cases fuel with
    | zero => rfl
    | succ fuel => rfl
  | a :: as, fuel + 1, left, short, enough => by
    rw [List.forall_mem_cons] at short
    obtain ⟨c, s, chars, start⟩ := term_head a.term
    have solid : skipSpace (a.term.chars ++ as.flatMap Addend.chars) = a.term.chars ++ as.flatMap Addend.chars := by
      rw [chars]
      exact skipSpace_start start _
    have rest := joinUpTo_addends as fuel (.binary left a.operation a.term.meaning) short.2
      (Nat.le_of_succ_le_succ enough)
    -- One step takes a sign and the term behind it; the term ends where the rest begins.
    rw [List.flatMap_cons, Addend.chars, List.cons_append, joinUpTo, word?_addend]
    simp only [solid, product_term inner short.1 (between_chars as), bind, Except.bind, rest]
    rfl

theorem length_le_chars : ∀ as : List Addend, as.length ≤ (as.flatMap Addend.chars).length
  | [] => Nat.le_refl 0
  | a :: as => by
    have rest := length_le_chars as
    rw [List.flatMap_cons, List.length_append, Addend.chars, List.length_cons, List.length_cons]
    omega

theorem comparison_addition {x : Addition} (short : x.Short) : comparison inner x.chars = .ok (x.meaning, []) := by
  have sum : sum inner x.chars = .ok (x.meaning, []) := by
    rw [Reader.sum, joined, Addition.chars, product_term inner short.1 (between_chars x.rest)]
    exact joinUpTo_addends inner x.rest _ x.first.meaning short.2 (length_le_chars x.rest)
  rw [comparison, joined, sum]
  rfl

end Levels

theorem joined_error {operations : List (String × Operation)} {next : Scan Notation} {s : List Char} {fault : Fault}
    (failed : next s = .error fault) : joined operations next s = .error fault := by
  rw [joined, failed]
  rfl

end Reader

/-- **An addition is read as it is written.** -/
theorem Addition.parse {x : Addition} (short : x.Short) : Notation.parse x.text = .ok x.meaning := by
  rw [Notation.parse, text, String.toList_ofList, Reader.nested, Reader.comparison_addition _ short]

theorem Pool.parse_overlong {p : Pool} (counted : ∀ n ∈ p.count, n.Short)
    (long : Text.digitLimit < p.sides.digits.length) :
    Notation.parse (Addition.mk (.dice false p) []).text = .error (.tooManyDigits p.sides.digits.length) := by
  have chars : (Addition.mk (.dice false p) []).chars = p.chars := List.append_nil _
  obtain ⟨c, s, own, bare⟩ := Reader.bare_head (.dice false p)
  have failed : Reader.numeral p.chars = .error (.tooManyDigits p.sides.digits.length) := by
    have read := Reader.numeral_pool counted []
    rwa [List.append_nil, List.append_nil, Reader.diceAfter_overlong p.dice long] at read
  have refused (inner : Reader.Scan Notation) :
      Reader.signed inner p.chars = .error (.tooManyDigits p.sides.digits.length) := by
    have operand : Reader.operand inner p.chars = .error (.tooManyDigits p.sides.digits.length) := by
      rw [Reader.operand_numeral, failed]
      · rfl
      · rw [show p.chars = c :: s from own]
        exact fun same => Reader.ne_of_bare bare (by decide) (Option.some.inj same)
    rw [show p.chars = c :: s from own] at operand ⊢
    rw [Reader.signed, List.length_cons, Reader.signedUpTo_unsigned (Reader.unsigned_of_bare bare), operand]
  rw [Notation.parse, Addition.text, String.toList_ofList, chars, Reader.nested, Reader.comparison, Reader.sum,
    Reader.product, Reader.joined_error (Reader.joined_error (Reader.joined_error (refused _)))]

end Bestiary.Dice
