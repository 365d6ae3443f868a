import Mathlib.Data.List.TakeDrop
import Bestiary.Json.Parser
import Bestiary.Proofs.Document.Moment
import Bestiary.Proofs.Number.Shortest
/-!
# Numeral — the text of a number is read back

An unsigned number is the digits before its point, those after it and the text of its exponent.  The parser takes these
apart again (`number_numeral`), whatever follows that could not belong to a number.  The layouts of a style differ in
where the point goes and not in the value (`value_numeral`), so the text of a double reads as a decimal that is near it,
and that is the double (`number_text`).
-/
namespace Bestiary

open Number (Double Decimal Style)
open Text (isAsciiDigit natOfDigits)

namespace Text

theorem isAsciiDigit_of_mem_toDigits {n : Nat} : ∀ c ∈ Nat.toDigits 10 n, isAsciiDigit c = true := fun _ mem =>
  isAsciiDigit_of_isDigit (Nat.isDigit_of_mem_toDigits (by decide) (by decide) mem)

theorem natOfDigits_toDigits (n : Nat) : natOfDigits (Nat.toDigits 10 n) = n := by
  rw [natOfDigits_eq, Nat.ofDigitChars_ten_toDigits]

theorem natOfDigits_zeros_append (n : Nat) (ds : List Char) :
    natOfDigits (List.replicate n '0' ++ ds) = natOfDigits ds := by
  rw [natOfDigits_eq, Nat.ofDigitChars_append, Nat.ofDigitChars_replicate_zero, Nat.mul_zero, natOfDigits_eq]

theorem natOfDigits_append_zeros (n : Nat) (ds : List Char) :
    natOfDigits (ds ++ List.replicate n '0') = natOfDigits ds * 10 ^ n := by
  rw [natOfDigits_eq, Nat.ofDigitChars_append, Nat.ofDigitChars_replicate_zero, natOfDigits_eq, Nat.mul_comm]

/-- The digits of a positive number start with no zero. -/
theorem head?_toDigits {n : Nat} (positive : 0 < n) : (Nat.toDigits 10 n).head? ≠ some '0' := by
  induction n using Nat.strong_induction_on with
  | _ n ih =>
    rcases Nat.lt_or_ge n 10 with one | more
    · rw [Nat.toDigits_of_lt_base one, List.head?_cons, ne_eq, Option.some_inj, Nat.digitChar_eq_zero]
      omega
    · rw [Nat.toDigits_of_base_le (by decide) more, List.head?_append_of_ne_nil _ Nat.toDigits_ne_nil]
      exact ih (n / 10) (by omega) (by omega)

end Text

namespace Json.Parser

/-- What follows could not belong to a number. -/
def Ends (rest : List Char) : Prop := ∀ c ∈ rest.head?, isAsciiDigit c = false ∧ c ≠ '.' ∧ c ≠ 'e' ∧ c ≠ 'E'

theorem digits_append {ds rest : List Char} (all : ∀ c ∈ ds, isAsciiDigit c = true)
    (stop : ∀ c ∈ rest.head?, isAsciiDigit c = false) : digits (ds ++ rest) = (ds, rest) := by
  have head : rest.takeWhile isAsciiDigit = [] ∧ rest.dropWhile isAsciiDigit = rest := by
    cases rest with
    | nil => exact ⟨rfl, rfl⟩
    | cons c rest => simp [stop c rfl]
  rw [digits, List.span_eq_takeWhile_dropWhile, List.takeWhile_append_of_pos all, List.dropWhile_append_of_pos all,
    head.1, head.2, List.append_nil]

theorem fraction_point {ds rest : List Char} (some : ds ≠ []) (all : ∀ c ∈ ds, isAsciiDigit c = true)
    (stop : ∀ c ∈ rest.head?, isAsciiDigit c = false) : fraction ('.' :: ds ++ rest) = (ds, rest) := by
  have read : digits (ds ++ rest) = (ds, rest) := digits_append all stop
  simp [fraction, read, some]

theorem fraction_none {rest : List Char} (stop : ∀ c ∈ rest.head?, c ≠ '.') : fraction rest = ([], rest) := by
  unfold fraction
  split
  · exact absurd rfl (stop '.' rfl)
  · rfl

theorem exponent_none {rest : List Char} (ends : Ends rest) : exponent rest = (none, rest) := by
  cases rest with
  | nil => rfl
  | cons c rest =>
    obtain ⟨-, -, small, capital⟩ := ends c rfl
    simp [exponent, small, capital]

/-- The digits of an exponent. -/
def exponentDigits (style : Style) (e : Int) : List Char :=
  List.replicate (style.exponentWidth - (toString e.natAbs).length) '0' ++ Nat.toDigits 10 e.natAbs

theorem toList_exponentText (style : Style) (e : Int) :
    (style.exponentText e).toList =
      'e' :: ((if e < 0 then ['-'] else if style.plusSign then ['+'] else []) ++ exponentDigits style e) := by
  simp only [Style.exponentText, exponentDigits]
  split
  · simp
  · split <;> simp

theorem exponentDigits_digits (style : Style) (e : Int) : ∀ c ∈ exponentDigits style e, isAsciiDigit c = true := by
  intro c mem
  rcases List.mem_append.1 mem with zero | digit
  · rw [List.eq_of_mem_replicate zero]
    rfl
  · exact Text.isAsciiDigit_of_mem_toDigits c digit

theorem natOfDigits_exponentDigits (style : Style) (e : Int) : natOfDigits (exponentDigits style e) = e.natAbs := by
  rw [exponentDigits, Text.natOfDigits_zeros_append, Text.natOfDigits_toDigits]

/-- **An exponent is read off its text**, with or without a plus sign and with zeros before it. -/
theorem exponent_text (style : Style) (e : Int) {rest : List Char} (ends : Ends rest) :
    exponent ((style.exponentText e).toList ++ rest) = (some e, rest) := by
  have read : digits (exponentDigits style e ++ rest) = (exponentDigits style e, rest) :=
    digits_append (exponentDigits_digits style e) fun c mem => (ends c mem).1
  have value := natOfDigits_exponentDigits style e
  have digit := exponentDigits_digits style e
  have filled : exponentDigits style e ≠ [] := by simp [exponentDigits]
  rw [toList_exponentText]
  generalize exponentDigits style e = ds at read value digit filled
  obtain ⟨d, ds, rfl⟩ := List.exists_cons_of_ne_nil filled
  have first := digit d List.mem_cons_self
  rw [List.cons_append] at read
  split
  · simp only [exponent, List.cons_append, List.nil_append, read, value]
    simp [-Nat.cast_natAbs]
    omega
  · split
    · simp only [exponent, List.cons_append, List.nil_append, read, value]
      simp [-Nat.cast_natAbs]
      omega
    · have no_minus : d ≠ '-' := by rintro rfl; cases first
      have no_plus : d ≠ '+' := by rintro rfl; cases first
      simp [exponent, no_minus, no_plus, read, value, -Nat.cast_natAbs]
      omega

/-! ## Numbers -/

/-- Reads a number after its sign; `length` counts the characters from the sign on. -/
def magnitude (length : Nat) (negative : Bool) (unsigned : List Char) : Scan (Json × List Char) :=
  let (whole, rest) := match unsigned with
    | '0' :: rest => (['0'], rest)
    | _ => digits unsigned
  if whole.isEmpty then .error (.value, length)
  else
    let (decimals, rest) := fraction rest
    let (power, rest) := exponent rest
    if decimals.isEmpty && power.isNone then
      if Text.digitLimit < whole.length then .error (.tooManyDigits whole.length, length)
      else
        let n : Int := natOfDigits whole
        .ok (.int (if negative then -n else n), rest)
    else
      .ok (.float (Double.ofDecimal negative (natOfDigits (whole ++ decimals)) (power.getD 0 - decimals.length)), rest)

/-- The sign of a number. -/
def sign (negative : Bool) : List Char := if negative then ['-'] else []

theorem number_sign (negative : Bool) {unsigned : List Char} (bare : ∀ c ∈ unsigned.head?, c ≠ '-') :
    number (sign negative ++ unsigned) = magnitude (sign negative ++ unsigned).length negative unsigned := by
  cases negative with
  | true => rfl
  | false =>
    cases unsigned with
    | nil => rfl
    | cons c rest =>
      have first : c ≠ '-' := bare c rfl
      simp only [sign, Bool.false_eq_true, if_false, List.nil_append]
      unfold number
      split
      rename_i parts
      split at parts
      · simp_all
      · cases parts
        rfl

/-- The parts of an unsigned number: the digits before and after its point, and its exponent. -/
structure Numeral where
  whole : List Char
  decimals : List Char
  power : Option Int

namespace Numeral

/-- The characters of an unsigned number. -/
def chars (style : Style) (n : Numeral) : List Char :=
  n.whole ++ (if n.decimals.isEmpty then [] else '.' :: n.decimals) ++
    (n.power.map fun e => (style.exponentText e).toList).getD []

/-- The number that is written. -/
def value (n : Numeral) : ℚ := natOfDigits (n.whole ++ n.decimals) * 10 ^ (n.power.getD 0 - n.decimals.length)

/-- Digits make up the number, and a zero starts it only on its own. -/
structure Regular (n : Numeral) : Prop where
  filled : n.whole ≠ []
  whole : ∀ c ∈ n.whole, isAsciiDigit c = true
  leading : n.whole.head? = some '0' → n.whole = ['0']
  decimals : ∀ c ∈ n.decimals, isAsciiDigit c = true

section Parts

variable (style : Style) (power : Option Int) {decimals rest tail : List Char}

theorem exponent_power (ends : Ends rest) :
    exponent ((power.map fun e => (style.exponentText e).toList).getD [] ++ rest) = (power, rest) := by
  cases power with
  | none => exact exponent_none ends
  | some e => exact exponent_text style e ends

theorem head_power (ends : Ends rest) :
    ∀ c ∈ ((power.map fun e => (style.exponentText e).toList).getD [] ++ rest).head?,
      isAsciiDigit c = false ∧ c ≠ '.' := by
  cases power with
  | none => exact fun c mem => ⟨(ends c mem).1, (ends c mem).2.1⟩
  | some e =>
    intro c mem
    rw [Option.map_some, Option.getD_some, toList_exponentText] at mem
    cases mem
    exact ⟨rfl, by decide⟩

theorem fraction_decimals (digits : ∀ c ∈ decimals, isAsciiDigit c = true)
    (ends : ∀ c ∈ tail.head?, isAsciiDigit c = false ∧ c ≠ '.') :
    fraction ((if decimals.isEmpty then [] else '.' :: decimals) ++ tail) = (decimals, tail) := by
  cases decimals with
  | nil => exact fraction_none fun c mem => (ends c mem).2
  | cons d ds => exact fraction_point (List.cons_ne_nil d ds) digits fun c mem => (ends c mem).1

variable (decimals) in
theorem head_decimals (ends : ∀ c ∈ tail.head?, isAsciiDigit c = false ∧ c ≠ '.') :
    ∀ c ∈ ((if decimals.isEmpty then [] else '.' :: decimals) ++ tail).head?, isAsciiDigit c = false := by
  cases decimals with
  | nil => exact fun c mem => (ends c mem).1
  | cons d ds =>
    intro c mem
    cases mem
    rfl

end Parts

/-- **An unsigned number is taken apart into its parts.** -/
theorem magnitude_chars (style : Style) {n : Numeral} (regular : n.Regular) (length : Nat) (negative : Bool)
    {rest : List Char} (ends : Ends rest) :
    magnitude length negative (n.chars style ++ rest) =
      if n.decimals.isEmpty && n.power.isNone then
        if Text.digitLimit < n.whole.length then .error (.tooManyDigits n.whole.length, length)
        else .ok (.int (if negative then -(natOfDigits n.whole : Int) else natOfDigits n.whole), rest)
      else
        .ok (.float (Double.ofDecimal negative (natOfDigits (n.whole ++ n.decimals))
          (n.power.getD 0 - n.decimals.length)), rest) := by
  obtain ⟨whole, decimals, power⟩ := n
  obtain ⟨filled, whole_digits, leading, decimals_digits⟩ := regular
  have power_read := exponent_power style power ends
  have tail_ends := head_power style power ends
  simp only [chars]
  rw [List.append_assoc, List.append_assoc]
  generalize (power.map fun e => (style.exponentText e).toList).getD [] ++ rest = tail at power_read tail_ends ⊢
  have decimals_read := fraction_decimals decimals_digits tail_ends
  have rest_ends := head_decimals decimals tail_ends
  generalize (if decimals.isEmpty then [] else '.' :: decimals) ++ tail = rest' at decimals_read rest_ends ⊢
  have whole_read : (match whole ++ rest' with
      | '0' :: rest => (['0'], rest)
      | _ => digits (whole ++ rest')) = (whole, rest') := by
    split
    · rename_i zero
      have alone : whole = ['0'] := leading (by rw [← List.head?_append_of_ne_nil _ filled, zero, List.head?_cons])
      rw [alone] at zero ⊢
      cases zero
      rfl
    · exact digits_append whole_digits rest_ends
  have some : whole.isEmpty = false := by simpa using filled
  simp only [magnitude, whole_read, decimals_read, power_read, some, Bool.false_eq_true, if_false]

end Numeral

/-! ## The layouts of a double -/

/-- The parts in which a style writes a decimal number. -/
def numeral (style : Style) (d : Decimal) : Numeral :=
  let digits := Nat.toDigits 10 d.digits
  let point : Int := digits.length + d.exponent
  if style.leastPoint < point ∧ point ≤ style.greatestPoint then
    if point ≤ 0 then ⟨['0'], List.replicate (-point).toNat '0' ++ digits, none⟩
    else if digits.length ≤ point.toNat then
      ⟨digits ++ List.replicate (point.toNat - digits.length) '0', ['0'], none⟩
    else ⟨digits.take point.toNat, digits.drop point.toNat, none⟩
  else ⟨digits.take 1, digits.drop 1, some (point - 1)⟩

theorem toList_decimalText (style : Style) (d : Decimal) :
    (style.decimalText d).toList = (numeral style (Style.stripZeros 20 d)).chars style := by
  unfold Style.decimalText numeral
  dsimp only
  generalize Style.stripZeros 20 d = d
  have some : Nat.toDigits 10 d.digits ≠ [] := Nat.toDigits_ne_nil
  generalize Nat.toDigits 10 d.digits = digits at some ⊢
  generalize (digits.length : Int) + d.exponent = point
  split
  · split
    · simp [Numeral.chars, some]
    · split
      · simp [Numeral.chars]
      · have after : ¬ digits.length ≤ point.toNat := ‹_›
        simp [Numeral.chars, after]
  · cases digits.drop 1 <;> simp [Numeral.chars]

/-- Zeros at the end change the digits and the exponent but not the number. -/
theorem stripZeros_value (fuel : Nat) (d : Decimal) :
    ((Style.stripZeros fuel d).digits : ℚ) * 10 ^ (Style.stripZeros fuel d).exponent = d.digits * 10 ^ d.exponent := by
  induction fuel generalizing d with
  | zero => rfl
  | succ fuel ih =>
    unfold Style.stripZeros
    split
    · rename_i zero
      have tens : (d.digits : ℚ) = (d.digits / 10 : Nat) * 10 := by
        exact_mod_cast (Nat.div_mul_cancel (Nat.dvd_of_mod_eq_zero zero)).symm
      rw [ih, tens, zpow_add₀ (by norm_num), zpow_one]
      dsimp only
      ring
    · rfl

theorem regular_numeral (style : Style) {d : Decimal} (positive : 0 < d.digits) : (numeral style d).Regular := by
  have digits := Text.isAsciiDigit_of_mem_toDigits (n := d.digits)
  have filled : Nat.toDigits 10 d.digits ≠ [] := Nat.toDigits_ne_nil
  have head := Text.head?_toDigits positive
  unfold numeral
  dsimp only
  generalize Nat.toDigits 10 d.digits = ds at digits filled head ⊢
  generalize (ds.length : Int) + d.exponent = point
  have zeros (n : Nat) : ∀ c ∈ List.replicate n '0', isAsciiDigit c = true := by
    intro c mem
    rw [List.eq_of_mem_replicate mem]
    rfl
  have front (n : Nat) (some : 0 < n) (power : Option Int) : Numeral.Regular ⟨ds.take n, ds.drop n, power⟩ := by
    refine ⟨by simpa using ⟨by omega, filled⟩, fun c mem => digits c (List.mem_of_mem_take mem), fun zero => ?_,
      fun c mem => digits c (List.mem_of_mem_drop mem)⟩
    rw [List.head?_take, if_neg (by omega)] at zero
    exact absurd zero head
  split
  · split
    · exact ⟨by simp, by simp; rfl, fun _ => rfl, List.forall_mem_append.2 ⟨zeros _, digits⟩⟩
    · split
      · refine ⟨by simp [filled], List.forall_mem_append.2 ⟨digits, zeros _⟩, fun zero => ?_, by simp; rfl⟩
        rw [List.head?_append_of_ne_nil _ filled] at zero
        exact absurd zero head
      · exact front _ (by omega) _
  · exact front 1 (by omega) _

/-- **No layout changes the number.** -/
theorem value_numeral (style : Style) (d : Decimal) : (numeral style d).value = d.digits * 10 ^ d.exponent := by
  have written := Text.natOfDigits_toDigits d.digits
  have filled : 0 < (Nat.toDigits 10 d.digits).length := Nat.length_toDigits_pos
  unfold numeral
  dsimp only
  generalize Nat.toDigits 10 d.digits = ds at written filled ⊢
  split
  · split
    · have zeros (n : Nat) : natOfDigits (['0'] ++ (List.replicate n '0' ++ ds)) = d.digits := by
        rw [← written, ← Text.natOfDigits_zeros_append n ds]
        rfl
      simp only [Numeral.value, zeros, Option.getD_none, List.length_append, List.length_replicate]
      congr 2
      omega
    · split
      · obtain ⟨k, power⟩ : ∃ k : Nat, d.exponent = k := ⟨d.exponent.toNat, by omega⟩
        have shift : (ds.length + (k : Int)).toNat - ds.length = k := by omega
        have zeros : natOfDigits (ds ++ List.replicate k '0' ++ ['0']) = d.digits * 10 ^ (k + 1) := by
          rw [← written, List.append_assoc, ← List.replicate_succ', Text.natOfDigits_append_zeros]
        simp only [Numeral.value, power, shift, zeros, Option.getD_none, List.length_singleton]
        push_cast
        rw [zpow_natCast, pow_succ]
        norm_num
        ring
      · simp only [Numeral.value, List.take_append_drop, written, Option.getD_none, List.length_drop]
        congr 2
        omega
  · simp only [Numeral.value, List.take_append_drop, written, Option.getD_some, List.length_drop]
    congr 2
    omega

/-! ## Written numbers -/

theorem fractional_numeral (style : Style) (d : Decimal) :
    ((numeral style d).decimals.isEmpty && (numeral style d).power.isNone) = false := by
  have some : Nat.toDigits 10 d.digits ≠ [] := Nat.toDigits_ne_nil
  unfold numeral
  dsimp only
  split
  · split
    · simp [some]
    · split
      · rfl
      · have after : ¬ (Nat.toDigits 10 d.digits).length ≤ ((Nat.toDigits 10 d.digits).length + d.exponent).toNat := ‹_›
        have left : (Nat.toDigits 10 d.digits).drop ((Nat.toDigits 10 d.digits).length + d.exponent).toNat ≠ [] := by
          rwa [ne_eq, List.drop_eq_nil_iff]
        simp only [List.isEmpty_eq_false_iff.2 left, Bool.false_and]
  · exact Bool.and_false _

/-- What starts with no bracket or quote is a word or a number. -/
theorem value_bare (reach fuel : Nat) {c : Char} (rest : List Char) (quote : c ≠ '"') (square : c ≠ '[')
    (curly : c ≠ '\x7b') : value reach (fuel + 1) (c :: rest) =
      match words.find? fun word => word.1.isPrefixOf (c :: rest) with
      | some word => .ok (word.2, (c :: rest).drop word.1.length)
      | none => number (c :: rest) := by
  rw [value.eq_def]
  cases found : words.find? fun word => word.1.isPrefixOf (c :: rest) with
  | none => simp [quote, square, curly, found]
  | some word => simp [quote, square, curly, found]

/-- What starts with a digit, after a sign or without one, is read as a number. -/
theorem value_sign (reach fuel : Nat) (negative : Bool) {d : Char} (digit : isAsciiDigit d = true) (rest : List Char) :
    value reach (fuel + 1) (sign negative ++ d :: rest) =
      magnitude (sign negative ++ d :: rest).length negative (d :: rest) := by
  have other (c : Char) (not_digit : isAsciiDigit c = false) : c ≠ d := by
    rintro rfl
    rw [digit] at not_digit
    cases not_digit
  have capital := other 'I' rfl
  rw [← number_sign negative (by simpa using (other '-' rfl).symm)]
  cases negative with
  | true =>
    have no_word : words.find? (fun word => word.1.isPrefixOf ('-' :: d :: rest)) = none := by
      simp [words, List.isPrefixOf, capital]
    rw [sign, if_pos rfl, List.singleton_append, value_bare reach fuel _ (by decide) (by decide) (by decide), no_word]
  | false =>
    have no_word : words.find? (fun word => word.1.isPrefixOf (d :: rest)) = none := by
      simp [words, List.isPrefixOf, capital, other 'n' rfl, other 't' rfl, other 'f' rfl, other 'N' rfl, other '-' rfl]
    rw [sign, if_neg Bool.false_ne_true, List.nil_append,
      value_bare reach fuel _ (other '"' rfl).symm (other '[' rfl).symm (other '\x7b' rfl).symm, no_word]

/-- An unsigned number starts with a digit. -/
theorem chars_head (style : Style) {n : Numeral} (regular : n.Regular) :
    ∃ d ds, n.chars style = d :: ds ∧ isAsciiDigit d = true := by
  obtain ⟨d, ds, whole⟩ := List.exists_cons_of_ne_nil regular.filled
  have digit : isAsciiDigit d = true := regular.whole d (by rw [whole]; exact List.mem_cons_self)
  have chars : n.chars style = d :: (n.chars style).tail := by simp [Numeral.chars, whole]
  exact ⟨d, _, chars, digit⟩

/-- A number with a point or an exponent is read as the double nearest to it. -/
theorem value_chars (reach fuel : Nat) (style : Style) (negative : Bool) {n : Numeral} (regular : n.Regular)
    (fractional : (n.decimals.isEmpty && n.power.isNone) = false) {rest : List Char} (ends : Ends rest) :
    value reach (fuel + 1) (sign negative ++ n.chars style ++ rest) =
      .ok (.float (Double.ofDecimal negative (natOfDigits (n.whole ++ n.decimals))
        (n.power.getD 0 - n.decimals.length)), rest) := by
  obtain ⟨d, ds, chars, digit⟩ := chars_head style regular
  rw [chars, List.append_assoc, List.cons_append, value_sign reach fuel negative digit, ← List.cons_append, ← chars,
    Numeral.magnitude_chars style regular _ negative ends, fractional, if_neg Bool.false_ne_true]

/-- **A finite double is read back from its text**, in every style. -/
theorem value_text (reach fuel : Nat) (style : Style) {x : Double} {negative : Bool} {mantissa : Nat} {exponent : Int}
    (read : x.read = .finite negative mantissa exponent) {rest : List Char} (ends : Ends rest) :
    value reach (fuel + 1) ((style.text x).toList ++ rest) = .ok (.float x, rest) := by
  have whole := Double.assemble_of_read read
  have signed (s : String) : ((if negative then "-" else "") ++ s).toList = sign negative ++ s.toList := by
    cases negative <;> simp [sign]
  rcases Nat.eq_zero_or_pos mantissa with rfl | positive
  · have text : (style.text x).toList = sign negative ++ Numeral.chars style ⟨['0'], ['0'], none⟩ := by
      simp only [Style.text, read, if_true, signed]
      rfl
    have regular : Numeral.Regular ⟨['0'], ['0'], none⟩ := ⟨by simp, by simp; rfl, fun _ => rfl, by simp; rfl⟩
    have zero : natOfDigits (['0'] ++ ['0']) = 0 := rfl
    rw [text, value_chars reach fuel style negative regular rfl ends, zero, Double.ofDecimal, if_pos rfl, ← whole]
    rfl
  · have fits := Double.read_fitting read positive
    have near := Double.shortest_near fits
    have text : (style.text x).toList = sign negative ++
        (numeral style (Style.stripZeros 20 (Double.shortest mantissa exponent))).chars style := by
      simp only [Style.text, read, if_neg positive.ne', signed, toList_decimalText]
    rw [← stripZeros_value 20] at near
    generalize Style.stripZeros 20 (Double.shortest mantissa exponent) = d at near text
    have some : 0 < d.digits := by
      rcases Nat.eq_zero_or_pos d.digits with zero | h
      · have half := (near.bounds fits).1
        rw [zero] at half
        norm_num at half
      · exact h
    rw [← value_numeral style] at near
    rw [text, value_chars reach fuel style negative (regular_numeral style some) (fractional_numeral style d) ends,
      Double.ofDecimal_of_near negative fits near, whole]

/-- **An integer is read back from its digits**, if it has no more than are read. -/
theorem value_int (reach fuel : Nat) {n : Int} (few : (Nat.toDigits 10 n.natAbs).length ≤ Text.digitLimit)
    {rest : List Char} (ends : Ends rest) : value reach (fuel + 1) ((toString n).toList ++ rest) = .ok (.int n, rest) := by
  have text : (toString n).toList =
      sign (decide (n < 0)) ++ Numeral.chars .document ⟨Nat.toDigits 10 n.natAbs, [], none⟩ := by
    rw [Int.toString_eq_repr, Int.repr_eq_if]
    rcases lt_or_ge n 0 with neg | nonneg
    · have abs : (-n).toNat = n.natAbs := by omega
      simp [sign, neg, not_le.2 neg, abs, Numeral.chars]
    · have abs : n.toNat = n.natAbs := by omega
      simp [sign, not_lt.2 nonneg, nonneg, abs, Numeral.chars]
  have regular : Numeral.Regular ⟨Nat.toDigits 10 n.natAbs, [], none⟩ := by
    refine ⟨Nat.toDigits_ne_nil, Text.isAsciiDigit_of_mem_toDigits, fun zero => ?_, by simp⟩
    rcases Nat.eq_zero_or_pos n.natAbs with none | positive
    · dsimp only
      rw [none]
      rfl
    · exact absurd zero (Text.head?_toDigits positive)
  have whole : (if decide (n < 0) = true then -(n.natAbs : Int) else n.natAbs) = n := by
    split <;> rename_i sign <;> rw [decide_eq_true_eq] at sign <;> omega
  have short : ¬ Text.digitLimit < (Nat.toDigits 10 n.natAbs).length := by omega
  obtain ⟨d, ds, chars, digit⟩ := chars_head .document regular
  rw [text, chars, List.append_assoc, List.cons_append, value_sign reach fuel _ digit, ← List.cons_append, ← chars,
    Numeral.magnitude_chars .document regular _ _ ends]
  simp only [List.isEmpty_nil, Option.isNone_none, Bool.and_self, if_true, if_neg short, Text.natOfDigits_toDigits,
    whole]

end Json.Parser

end Bestiary
