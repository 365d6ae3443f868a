import Mathlib.Data.List.TakeWhile
import Bestiary.Dice.Cup
/-!
# Tokens — numbers and dice end where they ended when the spaces are gone

Space stands between the tokens of a notation and never in one.  What follows a token is an ending or a label behind any
space (`Edge`), so that the token ends at the same place when the spaces are gone: no digit joins a number, and no letter
another one (`numeral_tight`).
-/
namespace Bestiary.Dice.Reader

/-- The characters without the spaces among them. -/
def tight (s : List Char) : List Char := s.filter (· ≠ ' ')

theorem tight_append (p s : List Char) : tight (p ++ s) = tight p ++ tight s := List.filter_append p s

theorem tight_space (s : List Char) : tight (' ' :: s) = tight s := List.filter_cons_of_neg (by decide)

theorem tight_cons {c : Char} (solid : c ≠ ' ') (s : List Char) : tight (c :: s) = c :: tight s :=
  List.filter_cons_of_pos (by simpa using solid)

theorem tight_of_solid {p : List Char} (solid : ' ' ∉ p) : tight p = p := by
  refine List.filter_eq_self.2 fun c mem => ?_
  rw [decide_eq_true_eq]
  rintro rfl
  exact solid mem

theorem tight_length_le {rest s : List Char} (h : rest <:+ s) : (tight rest).length ≤ (tight s).length :=
  (h.filter _).length_le

/-- Dropping characters of which the space is one. -/
theorem dropWhile_tight {q : Char → Bool} (blank : q ' ' = true) : ∀ s : List Char,
    (tight s).dropWhile q = tight (s.dropWhile q)
  | [] => rfl
  | c :: s => by
    by_cases space : c = ' '
    · subst space
      rw [tight_space, List.dropWhile_cons_of_pos blank, dropWhile_tight blank s]
    · rw [tight_cons space]
      cases taken : q c with
      | true => rw [List.dropWhile_cons_of_pos taken, List.dropWhile_cons_of_pos taken, dropWhile_tight blank s]
      | false =>
        have stays : ¬q c = true := by rw [taken]; exact Bool.false_ne_true
        rw [List.dropWhile_cons_of_neg stays, List.dropWhile_cons_of_neg stays, tight_cons space]

theorem skipSpace_tight (s : List Char) : skipSpace (tight s) = tight (skipSpace s) := dropWhile_tight rfl s

/-- What comes first without the spaces comes first after any space, unless it is space itself. -/
theorem head?_skipSpace {c : Char} (solid : isSpace c = false) : ∀ {s : List Char}, c ∈ (tight s).head? →
    c ∈ (skipSpace s).head?
  | [], h => nomatch h
  | x :: s, h => by
    by_cases space : x = ' '
    · subst space
      rw [tight_space] at h
      rw [skipSpace, List.dropWhile_cons_of_pos rfl]
      exact head?_skipSpace solid h
    · rw [tight_cons space] at h
      cases h
      rw [skipSpace, List.dropWhile_cons_of_neg (by rw [solid]; exact Bool.false_ne_true)]
      rfl

/-! ## Where tokens end -/

/-- The characters are at their end, or the next one is one of these. -/
def Before (cs s : List Char) : Prop := ∀ c ∈ s.head?, c ∈ cs

/-- What can follow an operand. -/
def endings : List Char := ['+', '-', '*', '/', '%', '=', '>', '<', '!', ',', ')']

/-- What can follow a notation inside another one. -/
def closings : List Char := [',', ')']

/-- What can follow the characters of a token: space, or an ending, or a label. -/
def edges : List Char := [' ', '\t', '\x0c', '\r', '\n', '['] ++ endings

/-- A token ends here: after any space there is an ending or a label. -/
def Edge (s : List Char) : Prop := Before ('[' :: endings) (skipSpace s)

/-- No digit comes next when the spaces are gone. -/
def Undigited (s : List Char) : Prop := ∀ c ∈ (tight s).head?, Text.isAsciiDigit c = false

theorem Edge.before {s : List Char} (h : Edge s) : Before edges (tight s) := by
  intro c first
  cases space : isSpace c with
  | true =>
    simp only [isSpace, Bool.or_eq_true, decide_eq_true_eq] at space
    rcases space with (((rfl | rfl) | rfl) | rfl) | rfl <;> decide
  | false =>
    have ending := h c (head?_skipSpace space first)
    rcases List.mem_cons.1 ending with rfl | ending
    · decide
    · exact List.mem_append_right _ ending

theorem Edge.undigited {s : List Char} (h : Edge s) : Undigited s := by
  have none : edges.all fun c => !Text.isAsciiDigit c := by decide
  exact fun c first => Bool.not_eq_eq_eq_not.1 (List.all_eq_true.1 none c (h.before c first))

/-! ## Digits -/

theorem solid_of_digit {c : Char} (digit : Text.isAsciiDigit c = true) : c ≠ ' ' := by
  rintro rfl
  exact absurd digit (by decide)

theorem digits_tight {s : List Char} (ends : Undigited (digits s).2) :
    digits (tight s) = ((digits s).1, tight (digits s).2) := by
  have all : ∀ c ∈ (digits s).1, Text.isAsciiDigit c = true := fun c mem => List.mem_takeWhile_imp mem
  have own : tight (digits s).1 = (digits s).1 := tight_of_solid fun mem => solid_of_digit (all _ mem) rfl
  have parts : tight s = (digits s).1 ++ tight (digits s).2 := by
    rw [← own, ← tight_append]
    exact congrArg tight List.takeWhile_append_dropWhile.symm
  have stop : (tight (digits s).2).takeWhile Text.isAsciiDigit = [] ∧
      (tight (digits s).2).dropWhile Text.isAsciiDigit = tight (digits s).2 := by
    cases left : tight (digits s).2 with
    | nil => exact ⟨rfl, rfl⟩
    | cons c t =>
      have other : ¬Text.isAsciiDigit c = true := by
        rw [ends c (by rw [left]; rfl)]
        exact Bool.false_ne_true
      exact ⟨List.takeWhile_cons_of_neg other, List.dropWhile_cons_of_neg other⟩
  rw [parts, digits, List.takeWhile_append_of_pos all, List.dropWhile_append_of_pos all, stop.1, stop.2,
    List.append_nil]

theorem digits_suffix (s : List Char) : (digits s).2 <:+ s := List.dropWhile_suffix _

/-- A number starts with a digit. -/
theorem head?_digits {s : List Char} {c : Char} {ds : List Char} (h : (digits s).1 = c :: ds) :
    c ∈ s.head? ∧ Text.isAsciiDigit c = true := by
  have digit : Text.isAsciiDigit c = true := List.mem_takeWhile_imp (h ▸ List.mem_cons_self)
  cases s with
  | nil => cases h
  | cons x s =>
    simp only [digits, List.takeWhile_cons] at h
    split at h
    · cases h
      exact ⟨rfl, digit⟩
    · cases h

/-! ## Scans -/

/-- **What one scan makes of the characters, another makes of them without their spaces**, if what is left is as `F`
says. -/
def Tightens {α : Type} (p p' : Scan α) (F : List Char → Prop) (s : List Char) : Prop :=
  ∀ a rest, p s = .ok (a, rest) → rest <:+ s ∧ (F rest → p' (tight s) = .ok (a, tight rest))

/-- What a step answers comes from what its first part answers. -/
theorem ok_of_bind {α β : Type} {x : Except Fault α} {next : α → Except Fault β} {b : β} (h : x >>= next = .ok b) :
    ∃ a, x = .ok a ∧ next a = .ok b := by
  cases x with
  | error fault => cases h
  | ok a => exact ⟨a, rfl, h⟩

theorem ok_of_map {α β : Type} {x : Except Fault α} {f : α → β} {b : β} (h : x.map f = .ok b) :
    ∃ a, x = .ok a ∧ f a = b := by
  cases x with
  | error fault => cases h
  | ok a =>
    cases h
    exact ⟨a, rfl, rfl⟩

theorem whole_of_ok {s rest : List Char} {n : Nat} (h : whole s = .ok (n, rest)) :
    ∃ c ds, (digits s).1 = c :: ds ∧ wholeOf (c :: ds) = .ok n ∧ (digits s).2 = rest := by
  unfold whole at h
  rcases split : digits s with ⟨_ | ⟨c, ds⟩, left⟩
  · rw [split] at h
    cases h
  · rw [split] at h
    obtain ⟨m, read, h⟩ := ok_of_bind h
    cases h
    exact ⟨c, ds, rfl, read, rfl⟩

theorem whole_tight (s : List Char) : Tightens whole whole Undigited s := by
  intro n rest h
  obtain ⟨c, ds, own, read, rfl⟩ := whole_of_ok h
  refine ⟨digits_suffix s, fun ends => ?_⟩
  have again := digits_tight ends
  rw [own] at again
  simp only [whole, again, read]
  rfl

theorem head?_whole {s rest : List Char} {n : Nat} (h : whole s = .ok (n, rest)) :
    ∃ c ∈ s.head?, Text.isAsciiDigit c = true := by
  obtain ⟨c, ds, own, -, -⟩ := whole_of_ok h
  exact ⟨c, head?_digits own⟩

theorem tight_of_head {s : List Char} {c : Char} (first : c ∈ s.head?) (solid : c ≠ ' ') :
    ∃ t, s = c :: t ∧ tight s = c :: tight t := by
  cases s with
  | nil => cases first
  | cons x t =>
    cases first
    exact ⟨t, rfl, tight_cons solid t⟩

/-! ## Words -/

section Words

variable {α : Type} {table : List (String × α)} {s r : List Char} {a : α}

theorem word?_some (found : word? table s = some (a, r)) : ∃ w, (w, a) ∈ table ∧ s = w.toList ++ r := by
  obtain ⟨⟨w, b⟩, mem, shown⟩ := List.exists_of_findSome?_eq_some found
  dsimp only at shown
  split at shown
  · rename_i prefixed
    cases shown
    obtain ⟨rest, rfl⟩ := List.isPrefixOf_iff_prefix.1 prefixed
    exact ⟨w, mem, by rw [List.drop_left' String.length_toList]⟩
  · cases shown

theorem word?_eq_none_iff : word? table s = none ↔ ∀ entry ∈ table, ¬entry.1.toList <+: s := by
  simp only [word?, List.findSome?_eq_none_iff, ite_eq_right_iff, reduceCtorEq, imp_false,
    List.isPrefixOf_iff_prefix]

theorem word?_cons (entry : String × α) (table : List (String × α)) (s : List Char) :
    word? (entry :: table) s =
      if entry.1.toList <+: s then some (entry.2, s.drop entry.1.length) else word? table s := by
  simp only [word?, List.findSome?_cons]
  by_cases prefixed : entry.1.toList <+: s
  · rw [if_pos (List.isPrefixOf_iff_prefix.2 prefixed), if_pos prefixed]
  · rw [if_neg (mt List.isPrefixOf_iff_prefix.1 prefixed), if_neg prefixed]

/-- A word is found without the spaces if no word comes about when they go. -/
theorem word?_tight : ∀ {table : List (String × α)}, (∀ entry ∈ table, ' ' ∉ entry.1.toList) →
    (∀ entry ∈ table, entry.1.toList <+: tight s → entry.1.toList <+: s) →
      word? table (tight s) = (word? table s).map fun found => (found.1, tight found.2)
  | [], _, _ => rfl
  | entry :: table, solid, same => by
    rw [List.forall_mem_cons] at solid same
    rw [word?_cons, word?_cons, word?_tight solid.2 same.2]
    by_cases prefixed : entry.1.toList <+: s
    · obtain ⟨rest, rfl⟩ := prefixed
      have joined : tight (entry.1.toList ++ rest) = entry.1.toList ++ tight rest := by
        rw [tight_append, tight_of_solid solid.1]
      rw [joined, if_pos (List.prefix_append _ _), if_pos (List.prefix_append _ _), Option.map_some,
        List.drop_left' String.length_toList, List.drop_left' String.length_toList]
    · rw [if_neg prefixed, if_neg (mt same.1 prefixed)]

/-- **A word that is found is found without the spaces**, if what comes after it does not make another word of it. -/
theorem word?_found (solid : ∀ entry ∈ table, ' ' ∉ entry.1.toList) (next : Char → Bool)
    (apart : ∀ e ∈ table, ∀ f ∈ table, f.1.toList <+: e.1.toList →
      (e.1.toList.drop f.1.toList.length).head?.all fun c => !isSpace c && !next c)
    (found : word? table s = some (a, r)) (follows : ∀ c ∈ (skipSpace r).head?, next c = true) :
    word? table (tight s) = some (a, tight r) := by
  obtain ⟨w, mem, rfl⟩ := word?_some found
  have joined : tight (w.toList ++ r) = w.toList ++ tight r := by rw [tight_append, tight_of_solid (solid _ mem)]
  rw [word?_tight solid, found, Option.map_some]
  intro e listed prefixed
  rw [joined] at prefixed
  rcases List.prefix_or_prefix_of_prefix prefixed (List.prefix_append _ _) with short | ⟨t, longer⟩
  · exact short.trans (List.prefix_append _ _)
  · cases t with
    | nil =>
      rw [List.append_nil] at longer
      rw [← longer]
      exact List.prefix_append _ _
    | cons x t =>
      -- The word goes on behind the spaces, which what follows rules out.
      have second := apart e listed _ mem ⟨_, longer⟩
      rw [← longer, List.drop_left, List.head?_cons, Option.all_some, Bool.and_eq_true, Bool.not_eq_true',
        Bool.not_eq_true'] at second
      rw [← longer, List.prefix_append_right_inj] at prefixed
      obtain ⟨u, rest⟩ := prefixed
      have first : x ∈ (tight r).head? := by rw [← rest]; rfl
      have begins := follows x (head?_skipSpace second.1 first)
      rw [second.2] at begins
      cases begins

theorem cons_of_head?_any {p : Char → Bool} {s : List Char} (h : s.head?.any p = true) :
    ∃ c t, s = c :: t ∧ p c = true := by
  cases s with
  | nil => cases h
  | cons c t => exact ⟨c, t, rfl, h⟩

theorem word?_none {p : Char → Bool} (heads : ∀ entry ∈ table, entry.1.toList.head?.any p)
    (first : ∀ c ∈ s.head?, p c = false) : word? table s = none := by
  rw [word?_eq_none_iff]
  rintro entry mem ⟨rest, rfl⟩
  obtain ⟨c, t, word, own⟩ := cons_of_head?_any (heads entry mem)
  have other := first c (by rw [word]; rfl)
  rw [own] at other
  cases other

theorem word?_nil {p : Char → Bool} (heads : ∀ entry ∈ table, entry.1.toList.head?.any p) : word? table [] = none :=
  word?_none heads nofun

end Words

/-! ## Dice and numbers -/

theorem selector_tight (s : List Char) : Tightens selector selector Undigited s := by
  intro sel rest h
  obtain ⟨⟨n, left⟩, number, h⟩ := ok_of_bind h
  cases h
  cases found : word? picks s with
  | some picked =>
    obtain ⟨pick, r⟩ := picked
    rw [found] at number
    obtain ⟨w, mem, parts⟩ := word?_some found
    obtain ⟨suffix, read⟩ := whole_tight r n rest number
    refine ⟨suffix.trans ⟨w.toList, parts.symm⟩, fun ends => ?_⟩
    have again := word?_found (by decide) (fun _ => true) (by decide) found fun _ _ => rfl
    simp only [selector, again, Option.getD_some, read ends]
    rfl
  | none =>
    rw [found] at number
    obtain ⟨suffix, read⟩ := whole_tight s n rest number
    refine ⟨suffix, fun ends => ?_⟩
    obtain ⟨c, first, digit⟩ := head?_whole number
    obtain ⟨t, -, own⟩ := tight_of_head first (solid_of_digit digit)
    have again : word? picks (tight s) = none := by
      refine word?_none (p := fun c => !Text.isAsciiDigit c) (by decide) fun x hx => ?_
      rw [own] at hx
      cases hx
      rw [digit, Bool.not_true]
    simp only [selector, again, Option.getD_none, read ends]
    rfl

/-- Names of adjustments: none goes on as another one, and none starts where a token ends. -/
structure Names (names : List (String × Adjustment.Kind)) : Prop where
  solid : ∀ e ∈ names, ' ' ∉ e.1.toList
  heads : ∀ e ∈ names, e.1.toList.head?.any fun c => !edges.contains c && !Text.isAsciiDigit c
  apart : ∀ e ∈ names, ∀ f ∈ names, f.1.toList <+: e.1.toList →
    (e.1.toList.drop f.1.toList.length).head?.all fun c => !isSpace c && !(fun _ => true) c

theorem names_dice : Names diceAdjustments := ⟨by decide, by decide, by decide⟩

theorem names_set : Names setAdjustments := ⟨by decide, by decide, by decide⟩

theorem adjustmentsUpTo_tight {names : List (String × Adjustment.Kind)} (known : Names names) :
    ∀ {fuel fuel' : Nat} {s : List Char} {as : List Adjustment} {rest : List Char}, s.length ≤ fuel →
      (tight s).length ≤ fuel' → adjustmentsUpTo names fuel s = .ok (as, rest) →
        rest <:+ s ∧ (Edge rest → adjustmentsUpTo names fuel' (tight s) = .ok (as, tight rest) ∧ Undigited s)
  | 0, fuel', s, as, rest, enough, _, h => by
    have empty : s = [] := List.eq_nil_of_length_eq_zero (Nat.le_zero.1 enough)
    subst empty
    cases h
    refine ⟨List.suffix_rfl, fun edge => ⟨?_, edge.undigited⟩⟩
    cases fuel' with
    | zero => rfl
    | succ fuel' =>
      have none := word?_nil known.heads
      simp only [adjustmentsUpTo, tight, List.filter_nil, none]
  | fuel + 1, fuel', s, as, rest, enough, enough', h => by
    rw [adjustmentsUpTo] at h
    cases found : word? names s with
    | none =>
      rw [found] at h
      cases h
      refine ⟨List.suffix_rfl, fun edge => ⟨?_, edge.undigited⟩⟩
      have again : word? names (tight s) = none := word?_none known.heads fun c first => by
        rw [List.contains_iff_mem.2 (edge.before c first), Bool.not_true, Bool.false_and]
      cases fuel' with
      | zero => rfl
      | succ fuel' => simp only [adjustmentsUpTo, again]
    | some picked =>
      obtain ⟨kind, r⟩ := picked
      rw [found] at h
      obtain ⟨⟨sel, r'⟩, selected, h⟩ := ok_of_bind h
      obtain ⟨⟨further, r''⟩, more, h⟩ := ok_of_bind h
      cases h
      obtain ⟨w, mem, parts⟩ := word?_some found
      obtain ⟨suffix, again⟩ := selector_tight r sel r' selected
      have joined : tight s = w.toList ++ tight r := by rw [parts, tight_append, tight_of_solid (known.solid _ mem)]
      obtain ⟨c, t, word, apart⟩ := cons_of_head?_any (known.heads _ mem)
      rw [Bool.and_eq_true, Bool.not_eq_true', Bool.not_eq_true'] at apart
      have shorter := suffix.length_le
      have shorter' := tight_length_le suffix
      rw [parts, word, List.length_append, List.length_cons] at enough
      rw [joined, word, List.length_append, List.length_cons] at enough'
      obtain ⟨fuel', rfl⟩ : ∃ k, fuel' = k + 1 := ⟨fuel' - 1, by omega⟩
      obtain ⟨suffix', rest_tight⟩ := adjustmentsUpTo_tight known (by omega) (by omega : (tight r').length ≤ fuel') more
      refine ⟨suffix'.trans (suffix.trans ⟨w.toList, parts.symm⟩), fun edge => ?_⟩
      obtain ⟨rest_read, ends⟩ := rest_tight edge
      refine ⟨?_, fun x first => ?_⟩
      · have named := word?_found known.solid _ known.apart found fun _ _ => rfl
        simp only [adjustmentsUpTo, named, again ends]
        simp only [bind, Except.bind, rest_read]
        rfl
      · rw [joined, word] at first
        cases first
        exact apart.2

theorem adjustments_tight {names : List (String × Adjustment.Kind)} (known : Names names) {s rest : List Char}
    {as : List Adjustment} (h : adjustments names s = .ok (as, rest)) :
    rest <:+ s ∧ (Edge rest → adjustments names (tight s) = .ok (as, tight rest) ∧ Undigited s) := by
  obtain ⟨⟨all, left⟩, read, h⟩ := ok_of_bind h
  cases h
  obtain ⟨suffix, again⟩ := adjustmentsUpTo_tight known (Nat.le_refl _) (Nat.le_refl _) read
  refine ⟨suffix, fun edge => ⟨?_, (again edge).2⟩⟩
  simp only [adjustments, (again edge).1]
  rfl

theorem sides_tight (s : List Char) : Tightens sides sides Undigited s := by
  intro n rest h
  unfold sides at h
  split at h
  · cases h
    refine ⟨List.suffix_cons _ _, fun _ => ?_⟩
    rw [tight_cons (by decide)]
    rfl
  · obtain ⟨⟨m, left⟩, number, h⟩ := ok_of_bind h
    cases h
    obtain ⟨suffix, again⟩ := whole_tight s m rest number
    refine ⟨suffix, fun ends => ?_⟩
    obtain ⟨c, first, digit⟩ := head?_whole number
    obtain ⟨t, -, own⟩ := tight_of_head first (solid_of_digit digit)
    have read := again ends
    rw [own] at read ⊢
    unfold sides
    split
    · rename_i same
      cases same
      exact absurd digit (by decide)
    · rw [read]
      rfl

theorem diceAfter_tight (count : Nat) (s : List Char) : Tightens (diceAfter count) (diceAfter count) Edge s := by
  intro n rest h
  obtain ⟨⟨faces, r⟩, sided, h⟩ := ok_of_bind h
  obtain ⟨⟨as, left⟩, adjusted, h⟩ := ok_of_bind h
  cases h
  obtain ⟨suffix, faces_read⟩ := sides_tight s faces r sided
  obtain ⟨suffix', again⟩ := adjustments_tight names_dice adjusted
  refine ⟨suffix'.trans suffix, fun edge => ?_⟩
  obtain ⟨as_read, ends⟩ := again edge
  simp only [diceAfter, faces_read ends]
  simp only [bind, Except.bind, as_read]
  rfl

/-- A letter or a point stands where it stood when the spaces are gone. -/
theorem digits_tight_cons {s ds rest : List Char} {c : Char} (parts : digits s = (ds, c :: rest))
    (letter : c = 'd' ∨ c = '.') : digits (tight s) = (ds, c :: tight rest) := by
  have solid : c ≠ ' ' ∧ Text.isAsciiDigit c = false := by rcases letter with rfl | rfl <;> decide
  have ends : Undigited (digits s).2 := by
    intro x first
    rw [parts, tight_cons solid.1] at first
    cases first
    exact solid.2
  rw [digits_tight ends, parts, tight_cons solid.1]

theorem numeral_tight (s : List Char) : Tightens numeral numeral Edge s := by
  intro n rest h
  have suffix := digits_suffix s
  unfold numeral at h
  split at h <;> rename_i parts <;> rw [parts] at suffix
  · rename_i r
    obtain ⟨suffix', again⟩ := diceAfter_tight 1 r n rest h
    refine ⟨suffix'.trans ((List.suffix_cons _ _).trans suffix), fun edge => ?_⟩
    simp only [numeral, digits_tight_cons parts (.inl rfl), again edge]
  · rename_i r
    split at h
    · cases h
    · rename_i after left some_digits own
      cases h
      have suffix' := digits_suffix r
      rw [own] at suffix'
      refine ⟨suffix'.trans ((List.suffix_cons _ _).trans suffix), fun edge => ?_⟩
      have again : digits (tight r) = (after, tight rest) := by
        rw [digits_tight (own ▸ edge.undigited), own]
      simp only [numeral, digits_tight_cons parts (.inr rfl), again]
  · cases h
  · rename_i before r some_digits
    cases h
    refine ⟨(digits_suffix r).trans ((List.suffix_cons _ _).trans suffix), fun edge => ?_⟩
    simp only [numeral, digits_tight_cons parts (.inr rfl), digits_tight edge.undigited]
  · rename_i ds r some_digits
    obtain ⟨count, read, h⟩ := ok_of_bind h
    obtain ⟨suffix', again⟩ := diceAfter_tight count r n rest h
    refine ⟨suffix'.trans ((List.suffix_cons _ _).trans suffix), fun edge => ?_⟩
    simp only [numeral, digits_tight_cons parts (.inl rfl), read]
    exact again edge
  · rename_i ds r _ _ some_digits _ _
    obtain ⟨count, read, h⟩ := ok_of_bind h
    cases h
    refine ⟨suffix, fun edge => ?_⟩
    have again : digits (tight s) = (ds, tight rest) := by rw [digits_tight (parts ▸ edge.undigited), parts]
    have letter {c : Char} (apart : c ∉ edges) (t : List Char) : tight rest ≠ c :: t := fun first =>
      apart (edge.before c (by rw [first]; rfl))
    unfold numeral
    rw [again]
    generalize tight rest = after at letter
    split <;> rename_i same <;> cases same
    · exact (some_digits rfl).elim
    · exact (some_digits rfl).elim
    · exact (some_digits rfl).elim
    · exact (letter (by decide) _ rfl).elim
    · exact (letter (by decide) _ rfl).elim
    · rw [read]
      rfl

end Bestiary.Dice.Reader
