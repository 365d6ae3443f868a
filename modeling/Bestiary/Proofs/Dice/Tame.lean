import Mathlib.Data.List.TakeWhile
import Bestiary.Proofs.Dice.Whole
/-!
# Tame — texts whose errors are contained

A text is tame if nothing in it divides: it has no slash and no point, each of its percent signs is the sides of dice,
and it has no more digits than a number may have.  What the reader makes of a tame text is whole (`Tame.parse`), so a
tame text is rolled or refused and its amount can be had, unless it looks like a whole number and is none
(`roll_reckon_tame`).  Texts that are not tame can break (`broken_texts`).  The stack is taken to hold the operands of a
text, of which a usual one holds about a thousand.
-/
namespace Bestiary.Dice

/-- Whether each percent sign follows the letter of dice, if this character stands before the first one. -/
def sidesOnly (before : Char) : List Char → Bool
  | [] => true
  | c :: s => (c != '%' || before == 'd') && sidesOnly c s

theorem sidesOnly_append : ∀ (p : List Char) {before : Char} {rest : List Char}, sidesOnly before (p ++ rest) = true →
    sidesOnly (p.getLastD before) rest = true
  | [], _, _, h => h
  | c :: p, _, rest, h => by
    simp only [List.cons_append, sidesOnly, Bool.and_eq_true] at h
    have := sidesOnly_append p h.2
    rwa [List.getLastD_cons]

theorem sidesOnly_left : ∀ (p : List Char) {before : Char} {rest : List Char}, sidesOnly before (p ++ rest) = true →
    sidesOnly before p = true
  | [], _, _, _ => rfl
  | c :: p, _, rest, h => by
    simp only [List.cons_append, sidesOnly, Bool.and_eq_true] at h ⊢
    exact ⟨h.1, sidesOnly_left p h.2⟩

/-- After another letter there is no percent sign at the start, so any letter may stand there. -/
theorem sidesOnly_of_ne {before : Char} (other : before ≠ 'd') {s : List Char} (h : sidesOnly before s = true)
    (c : Char) : sidesOnly c s = true := by
  cases s with
  | nil => rfl
  | cons x s =>
    simp only [sidesOnly, Bool.and_eq_true, Bool.or_eq_true] at h ⊢
    refine ⟨.inl ?_, h.2⟩
    simpa [other] using h.1

theorem sidesOnly_filter : ∀ {before : Char} {s : List Char}, sidesOnly before s = true →
    sidesOnly before (s.filter (· ≠ ' ')) = true
  | _, [], _ => rfl
  | before, c :: s, h => by
    simp only [sidesOnly, Bool.and_eq_true] at h
    have rest := sidesOnly_filter h.2
    by_cases space : c = ' '
    · subst space
      rw [List.filter_cons_of_neg (by decide)]
      exact sidesOnly_of_ne (by decide) rest before
    · rw [List.filter_cons_of_pos (by simpa using space), sidesOnly, Bool.and_eq_true]
      exact ⟨h.1, rest⟩

/-- **A text in which nothing divides and no number is too long**, after this character. -/
structure Tame (before : Char) (s : List Char) : Prop where
  slash : '/' ∉ s
  point : '.' ∉ s
  percent : sidesOnly before s = true
  digits : s.countP Text.isAsciiDigit ≤ Text.digitLimit

namespace Tame

variable {before : Char} {s rest : List Char}

theorem drop {p : List Char} (h : Tame before (p ++ rest)) : Tame (p.getLastD before) rest where
  slash hs := h.slash (List.mem_append_right p hs)
  point hs := h.point (List.mem_append_right p hs)
  percent := sidesOnly_append p h.percent
  digits := by
    have := h.digits
    rw [List.countP_append] at this
    omega

theorem after (h : Tame before s) (other : before ≠ 'd') (c : Char) : Tame c s :=
  ⟨h.slash, h.point, sidesOnly_of_ne other h.percent c, h.digits⟩

/-- What is left after characters other than the letter of dice is tame. -/
theorem past {p : List Char} (h : Tame before (p ++ rest)) (other : before ≠ 'd') (letters : 'd' ∉ p) : Tame ' ' rest := by
  refine h.drop.after (fun last => ?_) ' '
  have mem : p.getLastD before ∈ before :: p := List.getLastD_mem_cons
  rcases List.mem_cons.1 mem with same | mem
  · exact other (same.symm.trans last)
  · exact letters (last ▸ mem)

theorem past_cons {c : Char} {p : List Char} (h : Tame before (c :: p ++ rest)) (letters : 'd' ∉ c :: p) :
    Tame ' ' rest := by
  have tail : Tame c (p ++ rest) := Tame.drop (p := [c]) h
  exact tail.past (fun same => letters (same ▸ List.mem_cons_self)) fun mem => letters (List.mem_cons_of_mem c mem)

theorem left {p : List Char} (h : Tame before (p ++ rest)) : Tame before p where
  slash hs := h.slash (List.mem_append_left rest hs)
  point hs := h.point (List.mem_append_left rest hs)
  percent := sidesOnly_left p h.percent
  digits := by
    have := h.digits
    rw [List.countP_append] at this
    omega

theorem filter (h : Tame before s) : Tame before (s.filter (· ≠ ' ')) where
  slash hs := h.slash (List.mem_filter.1 hs).1
  point hs := h.point (List.mem_filter.1 hs).1
  percent := sidesOnly_filter h.percent
  digits := Nat.le_trans (List.filter_sublist.countP_le) h.digits

theorem dropWhile (h : Tame ' ' s) {p : Char → Bool} (other : p 'd' = false) : Tame ' ' (s.dropWhile p) := by
  rw [← List.takeWhile_append_dropWhile (p := p) (l := s)] at h
  refine h.past (by decide) fun mem => ?_
  have taken := List.mem_takeWhile_imp mem
  rw [other] at taken
  cases taken

end Tame

/-! ## Reading -/

/-- What a scan of a tame text answers: something of which `Q` holds and a tame rest, or that the text is no notation. -/
def Answers {α : Type} (x : Except Reader.Fault (α × List Char)) (Q : α → Prop) : Prop :=
  (∃ a rest, x = .ok (a, rest) ∧ Q a ∧ Tame ' ' rest) ∨ x = .error .grammar

namespace Answers

variable {α β : Type} {Q : α → Prop} {R : β → Prop}

theorem ok {a : α} {rest : List Char} (h : Q a) (tame : Tame ' ' rest) : Answers (.ok (a, rest)) Q :=
  .inl ⟨a, rest, rfl, h, tame⟩

theorem grammar : Answers (.error .grammar) Q := .inr rfl

theorem bind {x : Except Reader.Fault (α × List Char)} {next : α × List Char → Except Reader.Fault (β × List Char)}
    (first : Answers x Q) (second : ∀ a rest, Q a → Tame ' ' rest → Answers (next (a, rest)) R) :
    Answers (x >>= next) R := by
  rcases first with ⟨a, rest, rfl, hq, tame⟩ | rfl
  · exact second a rest hq tame
  · exact grammar

end Answers

namespace Reader

theorem tame_skipSpace {s : List Char} (h : Tame ' ' s) : Tame ' ' (skipSpace s) := h.dropWhile (by decide)

theorem mem_digits {s : List Char} : 'd' ∉ (digits s).1 := fun mem => by
  have := List.mem_takeWhile_imp mem
  exact absurd this (by decide)

theorem digits_append (s : List Char) : (digits s).1 ++ (digits s).2 = s := List.takeWhile_append_dropWhile

theorem wholeOf_digits {before : Char} {s : List Char} (h : Tame before s) :
    wholeOf (digits s).1 = .ok (Text.natOfDigits (digits s).1) := by
  have all : (digits s).1.countP Text.isAsciiDigit = (digits s).1.length :=
    List.countP_eq_length.2 fun c hc => List.mem_takeWhile_imp hc
  have few := (digits_append s ▸ h).left.digits
  rw [all] at few
  unfold wholeOf
  rw [if_neg (by omega)]

/-- A whole number after any character. -/
theorem answers_whole {before : Char} {s : List Char} (h : Tame before s) : Answers (whole s) fun _ => True := by
  have read := wholeOf_digits h
  have letters := mem_digits (s := s)
  have parts := digits_append s
  unfold whole
  rcases split : digits s with ⟨_ | ⟨c, ds⟩, rest⟩
  · exact .grammar
  · rw [split] at read letters parts
    dsimp only at read letters parts ⊢
    rw [read]
    exact .ok trivial ((parts.symm ▸ h).past_cons letters)

/-- The words of a table: none has the letter of dice, and those that divide have a slash or are a percent sign. -/
def Safe {α : Type} (divides : α → Bool) (table : List (String × α)) : Prop :=
  ∀ entry ∈ table, 'd' ∉ entry.1.toList ∧
    (divides entry.2 = true → '/' ∈ entry.1.toList ∨ entry.1.toList.head? = some '%')

theorem tame_word {α : Type} {divides : α → Bool} {table : List (String × α)} (safe : Safe divides table)
    {s rest : List Char} {a : α} (h : Tame ' ' s) (found : word? table s = some (a, rest)) :
    divides a = false ∧ Tame ' ' rest := by
  obtain ⟨⟨w, b⟩, mem, shown⟩ := List.exists_of_findSome?_eq_some found
  dsimp only at shown
  split at shown
  · rename_i prefixed
    cases shown
    obtain ⟨letters, dividing⟩ := safe _ mem
    obtain ⟨rest, rfl⟩ := List.isPrefixOf_iff_prefix.1 prefixed
    dsimp only at letters dividing
    have left : (w.toList ++ rest).drop w.length = rest := List.drop_left' String.length_toList
    rw [left]
    refine ⟨?_, h.past (by decide) letters⟩
    cases divided : divides a with
    | false => rfl
    | true =>
      rcases dividing divided with slash | percent
      · exact absurd (List.mem_append_left _ slash) h.slash
      · obtain ⟨cs, hcs⟩ : ∃ cs, w.toList = '%' :: cs := by
          cases hw : w.toList with
          | nil => simp [hw] at percent
          | cons c cs =>
            simp [hw] at percent
            exact ⟨cs, by rw [percent]⟩
        have := h.percent
        simp [hcs, sidesOnly] at this
  · cases shown

/-- Nothing divides that is no operation. -/
theorem answers_selector {s : List Char} (h : Tame ' ' s) : Answers (selector s) fun _ => True := by
  have safe : Safe (fun _ => false) picks := by unfold Safe; decide
  have start : Tame ' ' ((word? picks s).getD (.equal, s)).2 := by
    cases found : word? picks s with
    | none => exact h
    | some r => exact (tame_word safe h found).2
  unfold selector
  exact (answers_whole start).bind fun n rest _ tame => .ok trivial tame

theorem answers_adjustmentsUpTo {names : List (String × Adjustment.Kind)} (safe : Safe (fun _ => false) names) :
    ∀ (fuel : Nat) {s : List Char}, Tame ' ' s → Answers (adjustmentsUpTo names fuel s) fun _ => True
  | 0, _, h => .ok trivial h
  | fuel + 1, s, h => by
    unfold adjustmentsUpTo
    split
    · exact .ok trivial h
    · rename_i kind rest found
      refine (answers_selector (tame_word safe h found).2).bind fun sel rest _ tame => ?_
      exact (answers_adjustmentsUpTo safe fuel tame).bind fun further rest _ tame => .ok trivial tame

theorem answers_adjustments {names : List (String × Adjustment.Kind)} (safe : Safe (fun _ => false) names)
    {s : List Char} (h : Tame ' ' s) : Answers (adjustments names s) fun _ => True :=
  (answers_adjustmentsUpTo safe s.length h).bind fun _ _ _ tame => .ok trivial tame

/-- The sides of dice, after their letter. -/
theorem answers_sides {s : List Char} (h : Tame 'd' s) : Answers (sides s) fun _ => True := by
  unfold sides
  split
  · rename_i rest
    exact .ok trivial (Tame.past_cons (p := []) h (by decide))
  · exact (answers_whole h).bind fun n rest _ tame => .ok trivial tame

theorem answers_diceAfter (count : Nat) {s : List Char} (h : Tame 'd' s) :
    Answers (diceAfter count s) Notation.Whole := by
  have safe : Safe (fun _ => false) diceAdjustments := by unfold Safe; decide
  unfold diceAfter
  refine (answers_sides h).bind fun sides rest _ tame => ?_
  exact (answers_adjustments safe tame).bind fun as rest _ tame => .ok (.dice count sides as) tame

theorem answers_numeral {s : List Char} (h : Tame ' ' s) : Answers (numeral s) Notation.Whole := by
  have read := wholeOf_digits h
  have tail : Tame ' ' (digits s).2 := ((digits_append s).symm ▸ h).past (by decide) mem_digits
  unfold numeral
  split <;> rename_i split <;> rw [split] at read tail <;> dsimp only at read tail
  · exact answers_diceAfter 1 (Tame.drop (p := ['d']) tail)
  · exact absurd List.mem_cons_self tail.point
  · exact .grammar
  · exact absurd List.mem_cons_self tail.point
  · rw [read]
    exact answers_diceAfter _ (Tame.drop (p := ['d']) tail)
  · rw [read]
    exact .ok (.number _) tail

/-! ## Operands and operations -/

variable {inner : Scan Notation} (nested : ∀ {s}, Tame ' ' s → Answers (inner s) Notation.Whole)
include nested

theorem answers_members : ∀ (fuel : Nat) {s : List Char}, Tame ' ' s →
    Answers (members inner fuel s) fun found => ∀ n ∈ found.1, n.Whole
  | 0, _, _ => .grammar
  | fuel + 1, s, h => by
    unfold members
    split
    · exact .ok nofun (h.past_cons (p := []) (by decide))
    · rename_i rest
      have start : Tame ' ' (skipSpace rest) := tame_skipSpace (h.past_cons (p := []) (by decide))
      split
      · rename_i rest' closed
        rw [closed] at start
        exact .ok nofun (start.past_cons (p := []) (by decide))
      · refine (nested start).bind fun n rest hn tame => ?_
        refine (answers_members fuel tame).bind fun found rest all tame => .ok ?_ tame
        intro m hm
        rcases List.mem_cons.1 hm with rfl | hm
        · exact hn
        · exact all m hm
    · exact .grammar

theorem answers_parenthesized {s : List Char} (h : Tame ' ' s) : Answers (parenthesized inner s) Notation.Whole := by
  have safe : Safe (fun _ => false) setAdjustments := by unfold Safe; decide
  have start := tame_skipSpace h
  unfold parenthesized
  split
  · rename_i rest closed
    rw [closed] at start
    exact (answers_adjustments safe (start.past_cons (p := []) (by decide))).bind fun as rest _ tame =>
      .ok (.set as nofun) tame
  · refine (nested start).bind fun first rest hfirst tame => ?_
    refine (answers_members nested _ tame).bind fun found rest all tame => ?_
    refine (answers_adjustments safe tame).bind fun as rest _ tame => ?_
    obtain ⟨further, comma⟩ := found
    dsimp only at all ⊢
    split
    · exact .ok (.group as hfirst) tame
    · refine .ok (.set as fun m hm => ?_) tame
      rcases List.mem_cons.1 hm with rfl | hm
      · exact hfirst
      · exact all m hm

omit nested in
theorem tame_skipLabels : ∀ (fuel : Nat) {s : List Char}, Tame ' ' s →
    (∃ rest, skipLabels fuel s = .ok rest ∧ Tame ' ' rest) ∨ skipLabels fuel s = .error .grammar
  | 0, s, h => .inl ⟨s, rfl, h⟩
  | fuel + 1, s, h => by
    unfold skipLabels
    split
    · rename_i rest
      split
      · rename_i rest' closed
        have whole : '[' :: rest = ('[' :: rest.takeWhile (fun c => c ≠ ']' && c ≠ '\n') ++ [']']) ++ rest' := by
          rw [List.append_assoc, List.cons_append, List.singleton_append, ← closed, List.takeWhile_append_dropWhile]
        rw [whole] at h
        have after : Tame ' ' rest' := h.drop.after (by rw [List.getLastD_concat]; decide) ' '
        exact tame_skipLabels fuel (tame_skipSpace after)
      · exact .inr rfl
    · exact .inl ⟨s, rfl, h⟩

theorem answers_operand {s : List Char} (h : Tame ' ' s) : Answers (operand inner s) Notation.Whole := by
  have labelled : ∀ (n : Notation) (rest : List Char), n.Whole → Tame ' ' rest →
      Answers (skipLabels rest.length (skipSpace rest) >>= fun rest => .ok (n, rest)) Notation.Whole := by
    intro n rest whole tame
    rcases tame_skipLabels rest.length (tame_skipSpace tame) with ⟨rest', labels, tame'⟩ | failed
    · rw [labels]
      exact .ok whole tame'
    · rw [failed]
      exact .grammar
  unfold operand
  dsimp only
  split
  · exact (answers_parenthesized nested (h.past_cons (p := []) (by decide))).bind labelled
  · exact (answers_numeral h).bind labelled

theorem answers_signedUpTo : ∀ (fuel : Nat) {s : List Char}, Tame ' ' s →
    Answers (signedUpTo inner fuel s) Notation.Whole
  | 0, _, h => answers_operand nested h
  | fuel + 1, s, h => by
    unfold signedUpTo
    split
    · have start := tame_skipSpace (h.past_cons (p := []) (by decide))
      exact (answers_signedUpTo fuel start).bind fun n rest hn tame => .ok (.signed false hn) tame
    · have start := tame_skipSpace (h.past_cons (p := []) (by decide))
      exact (answers_signedUpTo fuel start).bind fun n rest hn tame => .ok (.signed true hn) tame
    · exact answers_operand nested h

omit nested in
theorem answers_joinUpTo {operations : List (String × Operation)} (safe : Safe Operation.divides operations)
    {next : Scan Notation} (reads : ∀ {s}, Tame ' ' s → Answers (next s) Notation.Whole) :
    ∀ (fuel : Nat) {left : Notation} {s : List Char}, left.Whole → Tame ' ' s →
      Answers (joinUpTo operations next fuel left s) Notation.Whole
  | 0, _, _, hl, h => .ok hl h
  | fuel + 1, left, s, hl, h => by
    unfold joinUpTo
    split
    · exact .ok hl h
    · rename_i operation rest found
      obtain ⟨undivided, tame⟩ := tame_word safe h found
      exact (reads (tame_skipSpace tame)).bind fun right rest hr tame =>
        answers_joinUpTo safe reads fuel (.binary hl undivided hr) tame

omit nested in
theorem answers_joined {operations : List (String × Operation)} (safe : Safe Operation.divides operations)
    {next : Scan Notation} (reads : ∀ {s}, Tame ' ' s → Answers (next s) Notation.Whole) {s : List Char}
    (h : Tame ' ' s) : Answers (joined operations next s) Notation.Whole :=
  (reads h).bind fun _ _ hn tame => answers_joinUpTo safe reads _ hn tame

theorem answers_comparison {s : List Char} (h : Tame ' ' s) : Answers (comparison inner s) Notation.Whole := by
  have products : Safe Operation.divides productSigns := by unfold Safe; decide
  have sums : Safe Operation.divides sumSigns := by unfold Safe; decide
  have comparisons : Safe Operation.divides comparisonSigns := by unfold Safe; decide
  exact answers_joined comparisons (answers_joined sums (answers_joined products fun h =>
    answers_signedUpTo nested _ h)) h

omit nested in
theorem answers_nested : ∀ (depth : Nat) {s : List Char}, Tame ' ' s → Answers (Reader.nested depth s) Notation.Whole
  | 0, _, _ => .grammar
  | depth + 1, _, h => answers_comparison (answers_nested depth) h

end Reader

/-- **What a tame text writes is whole**, if it writes anything. -/
theorem Tame.parse {text : String} (tame : Tame ' ' text.toList) :
    (∀ n, Notation.parse text = .ok n → n.Whole) ∧ ∀ fault, Notation.parse text = .error fault → fault = .grammar := by
  unfold Notation.parse
  rcases Reader.answers_nested (text.length + 1) tame with ⟨n, rest, read, whole, -⟩ | failed
  · rw [read]
    cases rest with
    | nil => exact ⟨fun m same => (Except.ok.inj same) ▸ whole, fun _ same => (nomatch same)⟩
    | cons c rest => exact ⟨fun _ same => (nomatch same), fun _ same => (Except.error.inj same).symm⟩
  · rw [failed]
    exact ⟨fun _ same => (nomatch same), fun _ same => (Except.error.inj same).symm⟩

theorem Tame.trim {text : String} (h : Tame ' ' text.toList) : Tame ' ' (Text.trim text).toList := by
  have start : Tame ' ' (text.toList.dropWhile Text.isBlank) := h.dropWhile (by decide)
  generalize kept : text.toList.dropWhile Text.isBlank = cs at start
  have parts := congrArg List.reverse (List.takeWhile_append_dropWhile (p := Text.isBlank) (l := cs.reverse))
  rw [List.reverse_append, List.reverse_reverse] at parts
  rw [← parts] at start
  rw [Text.trim, String.toList_ofList, Text.stripBoth, kept]
  exact start.left

namespace Cup

theorem read_tame {text : String} (tame : Tame ' ' text.toList) (cup : Cup) :
    (∀ n, cup.read text = .ok n → n.Whole) ∧ ∀ fault, cup.read text = .error fault → fault = .grammar := by
  unfold read
  dsimp only
  split
  · refine Tame.parse ?_
    rw [withoutSpaces, String.toList_ofList]
    exact tame.filter
  · exact tame.parse

/-- A sign, if there is one, and decimal digits, no more than are read. -/
def WritesWhole (cs : List Char) : Prop :=
  ∃ sign ds : List Char, cs = sign ++ ds ∧ (sign = [] ∨ sign = ['+'] ∨ sign = ['-']) ∧ ds ≠ [] ∧
    (∀ c ∈ ds, (Text.decimalValue? c).isSome) ∧ ds.length ≤ Text.digitLimit

/-- The digits are read if they are decimal, and not too many. -/
theorem leading_iff (ds : List Char) :
    ¬Text.digitLimit < ((ds.map Text.decimalValue?).takeWhile Option.isSome).length ∧
      ((ds.map Text.decimalValue?).takeWhile Option.isSome).length = ds.length ↔
    (∀ c ∈ ds, (Text.decimalValue? c).isSome) ∧ ds.length ≤ Text.digitLimit := by
  have all : ((ds.map Text.decimalValue?).takeWhile Option.isSome).length = ds.length ↔
      ∀ c ∈ ds, (Text.decimalValue? c).isSome := by
    constructor
    · intro same c hc
      have start := List.takeWhile_prefix (l := ds.map Text.decimalValue?) Option.isSome
      have whole := start.eq_of_length (by simpa using same)
      exact List.takeWhile_eq_self_iff.1 whole _ (List.mem_map_of_mem hc)
    · intro some
      rw [List.takeWhile_eq_self_iff.2 (by simpa using some), List.length_map]
  rw [all]
  constructor
  · rintro ⟨few, some⟩
    rw [all.2 some] at few
    exact ⟨some, by omega⟩
  · rintro ⟨some, few⟩
    rw [all.2 some]
    exact ⟨by omega, some⟩

theorem answered_iff (text : String) (ds : List Char) (value : Int) :
    (∃ n, (if Text.digitLimit < ((ds.map Text.decimalValue?).takeWhile Option.isSome).length then
        Except.error (.tooManyDigits ((ds.map Text.decimalValue?).takeWhile Option.isSome).length)
      else if ((ds.map Text.decimalValue?).takeWhile Option.isSome).length = ds.length ∧ ds ≠ [] then .ok value
      else .error (.notWhole text)) = (.ok n : Except Cause Int)) ↔
    ds ≠ [] ∧ (∀ c ∈ ds, (Text.decimalValue? c).isSome) ∧ ds.length ≤ Text.digitLimit := by
  rw [← leading_iff]
  split
  · simp [*]
  · split
    · simp_all
    · rename_i few other
      exact ⟨fun ⟨n, same⟩ => (nomatch same), fun ⟨given, _, all⟩ => absurd ⟨all, given⟩ other⟩

theorem wholeOf_iff (text : String) : (∃ n, wholeOf text = .ok n) ↔ WritesWhole text.toList := by
  have undigit : ∀ c ∈ ['+', '-'], (Text.decimalValue? c).isSome = false :=
    List.forall_mem_cons.2 ⟨by decide, List.forall_mem_singleton.2 (by decide)⟩
  unfold wholeOf WritesWhole
  split
  rename_i negative ds signed
  refine (answered_iff text ds _).trans ?_
  split at signed
  · rename_i rest minus
    cases signed
    rw [minus]
    refine ⟨fun h => ⟨['-'], ds, rfl, .inr (.inr rfl), h⟩, ?_⟩
    rintro ⟨sign, ds, parts, rfl | rfl | rfl, digits⟩
    · rw [List.nil_append] at parts
      subst parts
      have := digits.2.1 '-' List.mem_cons_self
      simp [undigit] at this
    · cases parts
    · cases parts
      exact digits
  · rename_i rest plus
    cases signed
    rw [plus]
    refine ⟨fun h => ⟨['+'], ds, rfl, .inr (.inl rfl), h⟩, ?_⟩
    rintro ⟨sign, ds, parts, rfl | rfl | rfl, digits⟩
    · rw [List.nil_append] at parts
      subst parts
      have := digits.2.1 '+' List.mem_cons_self
      simp [undigit] at this
    · cases parts
      exact digits
    · cases parts
  · rename_i minus plus
    cases signed
    refine ⟨fun h => ⟨[], _, rfl, .inl rfl, h⟩, ?_⟩
    rintro ⟨sign, ds, parts, rfl | rfl | rfl, digits⟩
    · rw [parts]
      exact digits
    · exact absurd parts (plus ds)
    · exact absurd parts (minus ds)

/-- **The errors of a tame text are contained.**  Rolled, it comes to a roll or is refused, whatever the faces.  And its
amount can be had exactly if it is a whole number whenever it looks like one: then it is that number, or what the text
rolls, or nothing where the roll is refused.  Digits are counted, and the stack is taken to hold the operands. -/
theorem roll_reckon_tame (text : String) (cup : Cup) (tame : Tame ' ' text.toList) :
    (∀ cause, ((roll text).run cup).1 ≠ .error (.broken cause)) ∧
    ((∃ r, ((reckon text).run cup).1 = .ok r) ↔
      (looksWhole (Text.trim text) = true → WritesWhole (Text.trim text).toList)) ∧
    ∀ r, ((reckon text).run cup).1 = .ok r →
      if looksWhole (Text.trim text) then wholeOf (Text.trim text) = .ok r.amount
      else r.amount = match ((roll (Text.trim text)).run cup).1 with
        | .ok rolled => rolled.total
        | .error _ => 0 := by
  have contained {t : String} (h : Tame ' ' t.toList) : ∀ cause, ((roll t).run cup).1 ≠ .error (.broken cause) :=
    roll_not_broken t cup (read_tame h cup).1 (read_tame h cup).2
  refine ⟨contained tame, ?_⟩
  have contained := contained tame.trim
  have whole := wholeOf_iff (Text.trim text)
  unfold reckon
  simp only [Act.run] at contained ⊢
  generalize Text.trim text = trimmed at contained whole ⊢
  cases looks : looksWhole trimmed with
  | true =>
    simp only [if_true]
    cases read : wholeOf trimmed with
    | ok n =>
      rw [read] at whole
      refine ⟨⟨fun _ _ => whole.1 ⟨n, rfl⟩, fun _ => ⟨.plain n, rfl⟩⟩, fun r same => ?_⟩
      cases same
      rfl
    | error cause =>
      rw [read] at whole
      refine ⟨⟨fun made => ?_, fun h => ?_⟩, fun r same => absurd same (by simp)⟩
      · obtain ⟨r, same⟩ := made
        cases same
      · obtain ⟨n, same⟩ := whole.2 (h trivial)
        cases same
  | false =>
    simp only [Bool.false_eq_true, if_false, false_implies, iff_true]
    rcases run : roll trimmed cup with ⟨refusal | rolled, cup'⟩
    · rw [run] at contained
      cases refusal with
      | broken cause => exact absurd rfl (contained cause)
      | blank text' =>
        refine ⟨⟨_, rfl⟩, fun r same => ?_⟩
        cases same
        rfl
      | invalid text' cause =>
        refine ⟨⟨_, rfl⟩, fun r same => ?_⟩
        cases same
        rfl
    · refine ⟨⟨_, rfl⟩, fun r same => ?_⟩
      cases same
      rfl

theorem roll_reckon_tame_fire :
    let fire := "2d6k>4 + d%[fire]"
    let cup := ofFaces [4, 5, 7]
    ((reckon fire).run cup).1 = .ok (.rolled ⟨fire, 65, [5, 60], 0⟩) ∧
    (∀ cause, ((roll fire).run cup).1 ≠ .error (.broken cause)) ∧
    ((∃ r, ((reckon fire).run cup).1 = .ok r) ↔
      (looksWhole (Text.trim fire) = true → WritesWhole (Text.trim fire).toList)) := by
  have tame : Tame ' ' "2d6k>4 + d%[fire]".toList :=
    ⟨by decide +kernel, by decide +kernel, by decide +kernel, by decide +kernel⟩
  have contained := roll_reckon_tame "2d6k>4 + d%[fire]" (ofFaces [4, 5, 7]) tame
  exact ⟨by decide +kernel, contained.1, contained.2.1⟩

/-- **Texts that break**: a quotient by zero, which is noticed when the total is asked for, and texts that look like
whole numbers and are none. -/
theorem broken_texts :
    ((roll "1/0").run (ofFaces [])).1 = .error (.broken (.noTotal .divisionByZero)) ∧
    ((reckon "1/0").run (ofFaces [])).1 = .error (.noTotal .divisionByZero) ∧
    ((reckon "²").run (ofFaces [])).1 = .error (.notWhole "²") ∧
    ((reckon "--5").run (ofFaces [])).1 = .error (.notWhole "--5") := by
  decide +kernel

end Cup

end Bestiary.Dice
