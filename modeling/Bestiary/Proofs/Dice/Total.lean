import Bestiary.Proofs.Dice.Memory
import Bestiary.Proofs.Dice.Throw
/-!
# Total — what an addition comes to

A roll of an addition uses one face for each of its dice, lists what they show, and comes to that and its numbers
besides (`Addition.roll_text`).  An amount with the same text comes to the same total, also where it is a plain number
and nothing is rolled (`Addition.reckon_text`).  The number of sides of a die has to be short enough to be read, like
every number, and the stack is taken to hold the terms, of which a usual one holds about a thousand.
-/
namespace Bestiary.Dice

/-! ## The text of an addition -/

namespace Addition

open Reader (isStart isStart_of_digit isStart_signChar isBare)

theorem start_term (t : Term) : ∀ c ∈ t.chars, isStart c = true := by
  have digits (n : Numeral) : ∀ c ∈ n.digits, isStart c = true := fun c hc => isStart_of_digit (n.ascii c hc)
  have bare : ∀ c ∈ t.bare, isStart c = true := by
    cases t with
    | number sign n => exact digits n
    | dice plus p =>
      intro c hc
      rcases List.mem_append.1 hc with count | faces
      · cases given : p.count with
        | none =>
          rw [given] at count
          cases count
        | some n =>
          rw [given] at count
          exact digits n c count
      · rcases List.mem_cons.1 faces with rfl | faces
        · decide
        · exact digits p.sides c faces
  intro c hc
  rcases List.mem_append.1 hc with sign | behind
  · cases given : t.sign with
    | none =>
      rw [given] at sign
      cases sign
    | some negative =>
      rw [given, Option.elim_some, List.mem_singleton] at sign
      exact sign ▸ isStart_signChar negative
  · exact bare c behind

/-- Every character is one that an operand can begin with. -/
theorem start_chars (x : Addition) : ∀ c ∈ x.chars, isStart c = true := by
  intro c hc
  rcases List.mem_append.1 hc with first | rest
  · exact start_term x.first c first
  · obtain ⟨a, -, ha⟩ := List.mem_flatMap.1 rest
    rcases List.mem_cons.1 ha with rfl | ha
    · exact isStart_signChar a.negative
    · exact start_term a.term c ha

theorem toList_text (x : Addition) : x.text.toList = x.chars := String.toList_ofList

theorem solid_text (x : Addition) : ' ' ∉ x.text.toList := by
  rw [toList_text]
  exact fun mem => absurd (start_chars x _ mem) (by decide)

theorem filled_text (x : Addition) : Text.isBlankText x.text = false := by
  obtain ⟨c, s, chars, start⟩ := Reader.term_head x.first
  rw [Text.isBlankText, toList_text, Addition.chars, chars, List.cons_append, List.all_cons, not_blank_of_start start,
    Bool.false_and]

/-- Nothing is trimmed from a text without blanks. -/
theorem trim_text (x : Addition) : Text.trim x.text = x.text := by
  have dropped {cs : List Char} (start : ∀ c ∈ cs, isStart c = true) : cs.dropWhile Text.isBlank = cs := by
    cases cs with
    | nil => rfl
    | cons c cs => rw [List.dropWhile_cons_of_neg (by simp [not_blank_of_start (start c List.mem_cons_self)])]
  have all := start_chars x
  rw [Text.trim, Text.stripBoth, toList_text, dropped all,
    dropped fun c hc => all c (List.mem_reverse.1 hc), List.reverse_reverse]
  rfl

theorem read_text {x : Addition} (short : x.Short) (cup : Cup) : cup.read x.text = .ok x.meaning := by
  rw [Cup.read, withoutSpaces_of_solid x.solid_text]
  simp only [ite_self, x.parse short]

end Addition

/-! ## Rolls -/

/-- The hand that a cup is rolled with. -/
def Cup.hand (cup : Cup) : Hand := ⟨cup.faces, cup.shown, 0⟩

/-- **A roll of an addition** uses one face for each of its dice and comes to what they show and its numbers besides. -/
theorem Addition.roll_text {x : Addition} (short : x.Short) (few : x.sides.length ≤ Hand.limit) (cup : Cup) :
    (Cup.roll x.text).run cup =
      (.ok ⟨x.text, (cup.hand.shows x.sides).sum + x.modifier, cup.hand.shows x.sides, x.modifier⟩,
        { cup.learn x.text with shown := cup.shown + x.sides.length }) := by
  have room : cup.hand.thrown + x.sides.length ≤ Hand.limit := by
    rw [Cup.hand, Nat.zero_add]
    exact few
  obtain ⟨r, run, dice, total⟩ := x.adds cup.hand room
  have settled : Cup.settle x.text r =
      .ok ⟨x.text, (cup.hand.shows x.sides).sum + x.modifier, cup.hand.shows x.sides, x.modifier⟩ := by
    rw [Cup.settle, total]
    simp only [Amount.toTotal_whole, dice, ← List.sum_eq_foldr]
    congr 2
    omega
  have outcome : Cup.outcome x.text x.meaning cup.faces cup.shown =
      (Cup.settle x.text r, cup.shown + x.sides.length) := by
    unfold Cup.outcome
    rw [show (Hand.mk cup.faces cup.shown 0) = cup.hand from rfl, run]
    rfl
  rw [Cup.roll_read x.filled_text (x.read_text short cup), outcome, settled]

/-! ## Plain numbers -/

theorem decimalValue?_of_ascii {c : Char} (digit : Text.isAsciiDigit c = true) :
    Text.decimalValue? c = some (c.toNat - 48) := by
  simp only [Text.isAsciiDigit, Bool.and_eq_true, decide_eq_true_eq, Char.le_def, UInt32.le_iff_toNat_le] at digit
  have low : 48 ≤ c.toNat := digit.1
  have high : c.toNat ≤ 57 := digit.2
  rw [Text.decimalValue?, Text.decimalZeros, List.find?_cons_of_pos (by simp [low, high])]
  rfl

theorem isDigit_of_ascii {c : Char} (digit : Text.isAsciiDigit c = true) : Text.isDigit c = true := by
  rw [Text.isDigit, decimalValue?_of_ascii digit]
  rfl

namespace Numeral

theorem values (n : Numeral) : n.digits.map Text.decimalValue? = n.digits.map fun c => some (c.toNat - 48) :=
  List.map_congr_left fun c hc => decimalValue?_of_ascii (n.ascii c hc)

theorem leading (n : Numeral) :
    ((n.digits.map Text.decimalValue?).takeWhile Option.isSome).length = n.digits.length := by
  rw [List.takeWhile_eq_self_iff.2 (by simp [values]), List.length_map]

theorem value_eq (n : Numeral) :
    (n.digits.map Text.decimalValue?).foldl (fun (m : Int) v => 10 * m + (v.getD 0 : Nat)) 0 = n.value := by
  -- Both sides fold the same digits, one over integers and one over natural numbers.
  have fold : ∀ (ds : List Char) (m : Nat),
      (ds.map fun c => some (c.toNat - 48)).foldl (fun (m : Int) v => 10 * m + (v.getD 0 : Nat)) m =
        (ds.foldl (fun m c => 10 * m + (c.toNat - 48)) m : Nat) := by
    intro ds
    induction ds with
    | nil => exact fun _ => rfl
    | cons d ds ih =>
      intro m
      simp only [List.map_cons, List.foldl_cons, Option.getD_some, ← ih]
      norm_cast
  rw [values]
  exact fold n.digits 0

end Numeral

namespace Addition

open Reader (isBare ne_of_bare bare_head)

/-- Behind the signs in front the first term begins. -/
theorem drop_signs (x : Addition) : x.chars.dropWhile (fun c => c = '+' || c = '-') =
    x.first.bare ++ x.rest.flatMap Addend.chars := by
  have stops : (x.first.bare ++ x.rest.flatMap Addend.chars).dropWhile (fun c => c = '+' || c = '-') =
      x.first.bare ++ x.rest.flatMap Addend.chars := by
    obtain ⟨c, s, chars, bare⟩ := bare_head x.first
    rw [chars, List.cons_append, List.dropWhile_cons_of_neg]
    simpa using ⟨ne_of_bare bare (by decide), ne_of_bare bare (by decide)⟩
  rw [Addition.chars, Term.chars]
  cases x.first.sign with
  | none => exact stops
  | some negative =>
    rw [Option.elim_some, List.append_assoc, List.singleton_append, List.dropWhile_cons_of_pos (by cases negative <;> rfl),
      stops]

/-- A single number, as it is written. -/
def ofNumber (sign : Option Bool) (n : Numeral) : Addition := ⟨.number sign n, []⟩

theorem modifier_ofNumber (sign : Option Bool) (n : Numeral) :
    (ofNumber sign n).modifier = if sign = some true then -(n.value : Int) else n.value := by
  simp [modifier, ofNumber, Term.modifier]

/-- **Only a single number looks like one.** -/
theorem looksWhole_text (x : Addition) :
    Cup.looksWhole x.text = true ↔ ∃ sign n, x = ofNumber sign n := by
  have looks : Cup.looksWhole x.text = (x.first.bare ++ x.rest.flatMap Addend.chars).all Text.isDigit := by
    obtain ⟨c, s, chars, -⟩ := bare_head x.first
    rw [Cup.looksWhole, toList_text, drop_signs, chars]
    rfl
  rw [looks, List.all_append, Bool.and_eq_true, List.all_eq_true, List.all_eq_true]
  obtain ⟨first, rest⟩ := x
  constructor
  · rintro ⟨digits, others⟩
    cases rest with
    | cons a as =>
      -- The sign in front of the next term is no digit.
      have sign := others (signChar a.negative) (List.mem_flatMap.2 ⟨a, List.mem_cons_self, List.mem_cons_self⟩)
      cases negative : a.negative <;> rw [negative] at sign <;> exact absurd sign (by decide)
    | nil =>
      cases first with
      | number sign n => exact ⟨sign, n, rfl⟩
      | dice plus p => exact absurd (digits 'd' (List.mem_append_right _ List.mem_cons_self)) (by decide)
  · rintro ⟨sign, n, same⟩
    cases same
    exact ⟨fun c hc => isDigit_of_ascii (n.ascii c hc), nofun⟩

theorem wholeOf_text {sign : Option Bool} {n : Numeral} (short : n.Short) :
    Cup.wholeOf (ofNumber sign n).text = .ok (ofNumber sign n).modifier := by
  have chars : (ofNumber sign n).text.toList = sign.elim [] (fun negative => [signChar negative]) ++ n.digits := by
    rw [toList_text, Addition.chars, ofNumber, List.flatMap_nil, List.append_nil]
    rfl
  have few := Nat.not_lt.2 short
  unfold Cup.wholeOf
  rw [chars]
  rcases sign with _ | negative
  · -- Without a sign the digits could still begin with one, as far as the match can tell.
    have unsigned {c : Char} {ds : List Char} (other : Text.isAsciiDigit c = false) : n.digits ≠ c :: ds := by
      intro same
      rw [n.ascii c (by rw [same]; exact List.mem_cons_self)] at other
      cases other
    rw [Option.elim_none, List.nil_append]
    split
    rename_i negative ds signed
    split at signed
    · rename_i same
      exact absurd same (unsigned (by decide))
    · rename_i same
      exact absurd same (unsigned (by decide))
    · cases signed
      simp [n.leading, n.given, n.value_eq, few, modifier_ofNumber]
  · cases negative <;> simp [signChar, n.leading, n.given, n.value_eq, few, modifier_ofNumber]

/-- **An amount comes to the same as a roll**, whether the text is a plain number or is rolled. -/
theorem reckon_text {x : Addition} (short : x.Short) (few : x.sides.length ≤ Hand.limit) (cup : Cup) :
    ∃ r, ((Cup.reckon x.text).run cup).1 = .ok r ∧ r.amount = (cup.hand.shows x.sides).sum + x.modifier ∧
      ((Cup.reckon x.text).run cup).2.shown = cup.shown + x.sides.length := by
  cases looks : Cup.looksWhole x.text with
  | true =>
    obtain ⟨sign, n, rfl⟩ := x.looksWhole_text.1 looks
    rw [Cup.reckon_plain (by rwa [trim_text]), trim_text, wholeOf_text short.1]
    exact ⟨.plain (ofNumber sign n).modifier, rfl, (Int.zero_add _).symm, rfl⟩
  | false =>
    rw [Cup.reckon_roll (by rwa [trim_text]), trim_text, x.roll_text short few]
    exact ⟨_, rfl, rfl, rfl⟩

/-! ## One die -/

theorem text_die (sides : Numeral) (positive : 0 < sides.value) :
    (die sides positive).text = "1d" ++ String.ofList sides.digits := by
  have one : Nat.toDigits 10 1 = ['1'] := by decide
  rw [← String.toList_inj, toList_text, String.toList_append, Addition.chars, die, List.flatMap_nil, List.append_nil]
  simp only [Term.chars, Term.sign, Term.bare, Pool.chars, Numeral.ofNat, Option.elim_some, one, String.toList_ofList]
  rfl

theorem sides_die (sides : Numeral) (positive : 0 < sides.value) : (die sides positive).sides = [sides.value] := by
  simp [Addition.sides, die, Term.sides, Pool.dice]

theorem short_die {sides : Numeral} (positive : 0 < sides.value) (short : sides.Short) :
    (die sides positive).Short := by
  have one : ∀ n ∈ some (Numeral.ofNat 1), n.Short := by decide
  exact ⟨⟨one, short⟩, nofun⟩

end Addition

/-- Dice have so many sides, and not more than can be written. -/
structure Rollable (sides : Nat) : Prop where
  positive : 0 < sides
  written : sides < 10 ^ Text.digitLimit

theorem rollable_of_small {sides : Nat} (positive : 0 < sides) (small : sides < 10 ^ 2) : Rollable sides :=
  have more : 10 ^ 2 ≤ 10 ^ Text.digitLimit := Nat.pow_le_pow_right (by decide : 0 < 10) (by decide)
  ⟨positive, Nat.lt_of_lt_of_le small more⟩

theorem rollable_six : Rollable 6 := rollable_of_small (by decide) (by decide)

theorem rollable_twenty : Rollable 20 := rollable_of_small (by decide) (by decide)

namespace Cup

/-- What the next die with so many sides shows. -/
def nextShown (cup : Cup) (sides : Nat) : Nat := (Sides.faces sides).shown (Hand.next ⟨cup.faces, cup.shown, 0⟩)

/-- **A roll of one die** shows the next face and leaves the others for later. -/
theorem roll_die {sides : Nat} (rollable : Rollable sides) (cup : Cup) :
    (rollDie sides).run cup = (.ok ⟨"1d" ++ toString sides, cup.nextShown sides, [cup.nextShown sides], 0⟩,
      { cup.learn ("1d" ++ toString sides) with shown := cup.shown + 1 }) := by
  have given : 0 < (Numeral.ofNat sides).value := by
    rw [Numeral.value_ofNat]
    exact rollable.positive
  have few : (Addition.die (.ofNat sides) given).sides.length ≤ Hand.limit := by
    rw [Addition.sides_die, List.length_singleton]
    decide
  have rolled := Addition.roll_text (Addition.short_die given (Numeral.short_ofNat rollable.written)) few cup
  have none : (Addition.die (.ofNat sides) given).modifier = 0 := rfl
  have shown : cup.hand.shows [sides] = [cup.nextShown sides] := rfl
  rw [Addition.text_die, Addition.sides_die, Numeral.value_ofNat, shown, none, List.sum_singleton,
    Int.add_zero] at rolled
  exact rolled

/-- **Additions are rolled as written.**  A roll succeeds, uses one face for each of the dice and lists what they show
from left to right, each a number of its own die; what the total is beyond them is the sum of the numbers, whatever the
faces.  An amount with the same text comes to the same total.  And one die shows one of its sides.  Numbers have to be
short enough to be read, and the stack is taken to hold the terms. -/
theorem roll_addition (x : Addition) (short : x.Short) (few : x.sides.length ≤ Hand.limit) (cup : Cup) :
    (roll x.text).run cup =
      (.ok ⟨x.text, (cup.hand.shows x.sides).sum + x.modifier, cup.hand.shows x.sides, x.modifier⟩,
        { cup.learn x.text with shown := cup.shown + x.sides.length }) ∧
    List.Forall₂ (fun s d => 1 ≤ d ∧ d ≤ s) x.sides (cup.hand.shows x.sides) ∧
    (∃ r, ((reckon x.text).run cup).1 = .ok r ∧ r.amount = (cup.hand.shows x.sides).sum + x.modifier ∧
      ((reckon x.text).run cup).2.shown = cup.shown + x.sides.length) ∧
    ∀ sides : Nat, 0 < sides → sides < 10 ^ Text.digitLimit →
      ∃ r, ((rollDie sides).run cup).1 = .ok r ∧ 1 ≤ r.total ∧ r.total ≤ sides ∧
        ((rollDie sides).run cup).2.shown = cup.shown + 1 := by
  refine ⟨x.roll_text short few cup, Hand.shows_range cup.hand x.positive, Addition.reckon_text short few cup, ?_⟩
  intro sides positive written
  rw [roll_die ⟨positive, written⟩]
  have low := Sides.one_le_shown sides positive cup.hand.next
  have high := Sides.shown_le sides positive cup.hand.next
  exact ⟨_, rfl, Int.ofNat_le.2 low, Int.ofNat_le.2 high, rfl⟩

/-- A number, two dice, a die and another number. -/
def medley : Addition :=
  ⟨.number (some true) (.ofNat 5), [.plus (.dice false ⟨some (.ofNat 2), .ofNat 6, by simp, by simp⟩),
    .plus (.dice false ⟨none, .ofNat 4, nofun, by simp⟩), .minus none (.ofNat 3)]⟩

theorem roll_addition_medley :
    medley.text = "-5+2d6+d4-3" ∧
    ((roll "-5+2d6+d4-3").run (ofFaces [4, 8, 3])).1 = .ok ⟨"-5+2d6+d4-3", 1, [4, 2, 3], -8⟩ ∧
    (∃ r, ((reckon "-5+2d6+d4-3").run (ofFaces [4, 8, 3])).1 = .ok r ∧ r.amount = 1) ∧
    ∃ r, ((rollDie 20).run (ofFaces [4, 8, 3])).1 = .ok r ∧ 1 ≤ r.total ∧ r.total ≤ 20 := by
  have text : medley.text = "-5+2d6+d4-3" := by decide
  have short : medley.Short := by decide
  have shown : (ofFaces [4, 8, 3]).hand.shows medley.sides = [4, 2, 3] := by decide
  have modifier : medley.modifier = -8 := by decide
  have few : medley.sides.length ≤ Hand.limit := by decide
  obtain ⟨rolled, -, ⟨r, reckoned, amount, -⟩, die⟩ := roll_addition medley short few (ofFaces [4, 8, 3])
  rw [text, shown, modifier] at rolled
  rw [text] at reckoned
  rw [shown, modifier] at amount
  obtain ⟨d, run, low, high, -⟩ := die 20 (by decide) rollable_twenty.written
  exact ⟨text, congrArg Prod.fst rolled, ⟨r, reckoned, amount⟩, d, run, low, high⟩

/-- **A die breaks the roll if the number of its sides has too many digits**, whatever the faces. -/
theorem roll_overlong {p : Pool} (counted : ∀ n ∈ p.count, n.Short) (long : Text.digitLimit < p.sides.digits.length)
    (cup : Cup) : (roll (Addition.mk (.dice false p) []).text).run cup =
      (.error (.broken (.tooManyDigits p.sides.digits.length)), cup) := by
  have unread : cup.read (Addition.mk (.dice false p) []).text = .error (.tooManyDigits p.sides.digits.length) := by
    rw [Cup.read, withoutSpaces_of_solid (Addition.solid_text _)]
    simp only [ite_self, p.parse_overlong counted long]
  exact roll_unread (Addition.filled_text _) unread

/-- The digit one and so many zeros. -/
def powerOfTen (zeros : Nat) : Numeral where
  digits := '1' :: List.replicate zeros '0'
  given := nofun
  ascii := List.forall_mem_cons.2 ⟨by decide, fun c hc => by rw [List.eq_of_mem_replicate hc]; decide⟩

theorem length_powerOfTen (zeros : Nat) : (powerOfTen zeros).digits.length = zeros + 1 := by
  rw [powerOfTen, List.length_cons, List.length_replicate]

theorem powerOfTen_pos (zeros : Nat) : 0 < (powerOfTen zeros).value := by
  have one : (powerOfTen zeros).value = _ := Text.natOfDigits_append_zeros zeros ['1']
  rw [one]
  exact Nat.mul_pos (by decide) (Nat.pow_pos (by decide))

/-- A die with a power of ten for the number of its sides. -/
def boulder (zeros : Nat) : Addition := .die (powerOfTen zeros) (powerOfTen_pos zeros)

/-- One die with a positive number of sides, and no number besides, and still the roll does not succeed. -/
theorem boulder_broken :
    (boulder 4300).text = "1d" ++ String.ofList ('1' :: List.replicate 4300 '0') ∧
    (∃ s, (boulder 4300).sides = [s] ∧ 0 < s) ∧ (boulder 4300).modifier = 0 ∧
    ((roll (boulder 4300).text).run (ofFaces [3])).1 = .error (.broken (.tooManyDigits 4301)) := by
  have counted : ∀ n ∈ some (Numeral.ofNat 1), n.Short := by decide
  have long : Text.digitLimit < (powerOfTen 4300).digits.length := by
    rw [length_powerOfTen]
    decide
  refine ⟨Addition.text_die _ _, ⟨_, Addition.sides_die _ _, powerOfTen_pos 4300⟩, rfl, ?_⟩
  rw [boulder, Addition.die, roll_overlong counted long, length_powerOfTen]

end Cup

end Bestiary.Dice
