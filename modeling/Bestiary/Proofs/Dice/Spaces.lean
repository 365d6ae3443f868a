import Bestiary.Proofs.Dice.Tokens
/-!
# Spaces — a notation is the same without its spaces

Where a text is a notation, an operand begins behind each sign and an ending stands behind each operand; so no two signs
make one when the spaces between them are gone, and the text without its spaces is the same notation
(`Notation.parse_withoutSpaces`).  The other way round does not hold: `1 d6` is no notation and `1d6` is one.
-/
namespace Bestiary.Dice
namespace Reader

/-- Whether an operand can begin with a character. -/
def isStart (c : Char) : Bool := Text.isAsciiDigit c || ['d', '.', '(', '+', '-'].contains c

/-- What a scan reads begins as an operand does. -/
def Begins (p : Scan Notation) : Prop := ∀ s n rest, p s = .ok (n, rest) → ∃ c ∈ s.head?, isStart c = true

theorem isStart_of_digit {c : Char} (digit : Text.isAsciiDigit c = true) : isStart c = true := by
  rw [isStart, digit, Bool.true_or]

theorem solid_of_start {c : Char} (start : isStart c = true) : c ≠ ' ' := by
  rintro rfl
  exact absurd start (by decide)

/-! ## What operands begin with -/

theorem begins_numeral {s rest : List Char} {n : Notation} (h : numeral s = .ok (n, rest)) :
    ∃ c ∈ s.head?, isStart c = true ∧ c ≠ '(' := by
  have joined : (digits s).1 ++ (digits s).2 = s := List.takeWhile_append_dropWhile
  have number (ds : List Char) (parts : (digits s).1 = ds) (some_digits : ds = [] → False) :
      ∃ c ∈ s.head?, isStart c = true ∧ c ≠ '(' := by
    cases ds with
    | nil => exact (some_digits rfl).elim
    | cons c ds =>
      obtain ⟨first, digit⟩ := head?_digits parts
      refine ⟨c, first, isStart_of_digit digit, ?_⟩
      rintro rfl
      exact absurd digit (by decide)
  unfold numeral at h
  split at h <;> rename_i parts <;> rw [parts] at joined number
  · exact ⟨'d', by rw [← joined]; rfl, by decide, by decide⟩
  · exact ⟨'.', by rw [← joined]; rfl, by decide, by decide⟩
  · cases h
  · rename_i some_digits
    exact number _ rfl some_digits
  · rename_i some_digits
    exact number _ rfl some_digits
  · rename_i some_digits _ _
    exact number _ rfl some_digits

theorem begins_operand (inner : Scan Notation) : Begins (operand inner) := by
  intro s n rest h
  unfold operand at h
  split at h
  · exact ⟨'(', rfl, by decide⟩
  · obtain ⟨⟨m, left⟩, first, -⟩ := ok_of_bind h
    obtain ⟨c, head, start, -⟩ := begins_numeral first
    exact ⟨c, head, start⟩

/-- Whether a sign makes negative, if the character is one. -/
def negative? : Char → Option Bool
  | '+' => some false
  | '-' => some true
  | _ => none

theorem signedUpTo_sign {c : Char} {negative : Bool} (sign : negative? c = some negative) (inner : Scan Notation)
    (fuel : Nat) (s : List Char) : signedUpTo inner (fuel + 1) (c :: s) =
      (signedUpTo inner fuel (skipSpace s)).map fun read => (.signed negative read.1, read.2) := by
  unfold negative? at sign
  split at sign <;> cases sign <;> simp only [signedUpTo] <;> cases signedUpTo inner fuel (skipSpace s) <;> rfl

theorem signedUpTo_unsigned {c : Char} (unsigned : negative? c = none) (inner : Scan Notation) (fuel : Nat)
    (s : List Char) : signedUpTo inner (fuel + 1) (c :: s) = operand inner (c :: s) := by
  unfold signedUpTo
  split
  · rename_i same
    cases same
    cases unsigned
  · rename_i same
    cases same
    cases unsigned
  · rfl

theorem begins_signedUpTo (inner : Scan Notation) : ∀ fuel : Nat, Begins (signedUpTo inner fuel)
  | 0 => begins_operand inner
  | fuel + 1 => by
    intro s n rest h
    unfold signedUpTo at h
    split at h
    · exact ⟨'+', rfl, by decide⟩
    · exact ⟨'-', rfl, by decide⟩
    · exact begins_operand inner s n rest h

theorem begins_joined (operations : List (String × Operation)) {next : Scan Notation} (begins : Begins next) :
    Begins (joined operations next) := by
  intro s n rest h
  obtain ⟨⟨first, left⟩, read, -⟩ := ok_of_bind h
  exact begins s first left read

theorem begins_product (inner : Scan Notation) : Begins (product inner) :=
  begins_joined productSigns fun s n rest => begins_signedUpTo inner s.length s n rest

theorem begins_comparison (inner : Scan Notation) : Begins (comparison inner) :=
  begins_joined comparisonSigns (begins_joined sumSigns (begins_product inner))

theorem begins_nested : ∀ depth : Nat, Begins (nested depth)
  | 0 => fun _ _ _ h => by cases h
  | depth + 1 => begins_comparison (nested depth)

/-! ## Labels -/

theorem head?_skipSpace_solid {s : List Char} {c : Char} (first : c ∈ (skipSpace s).head?) : isSpace c = false := by
  have stopped := List.head?_dropWhile_not isSpace s
  rw [show s.dropWhile isSpace = skipSpace s from rfl, Option.mem_def.1 first] at stopped
  exact stopped

theorem skipSpace_suffix (s : List Char) : skipSpace s <:+ s := List.dropWhile_suffix _

theorem ne_space_of_solid {c : Char} (solid : isSpace c = false) : c ≠ ' ' := by
  rintro rfl
  cases solid

theorem skipLabels_tight : ∀ {fuel fuel' : Nat} {s rest : List Char}, s.length ≤ fuel → (tight s).length ≤ fuel' →
    (∀ c ∈ s.head?, c ≠ ' ') → skipLabels fuel s = .ok rest →
      rest <:+ s ∧ skipLabels fuel' (tight s) = .ok (tight rest)
  | 0, fuel', s, rest, enough, _, _, h => by
    have empty : s = [] := List.eq_nil_of_length_eq_zero (Nat.le_zero.1 enough)
    subst empty
    cases h
    refine ⟨List.suffix_rfl, ?_⟩
    cases fuel' <;> rfl
  | fuel + 1, fuel', s, rest, enough, enough', solid, h => by
    unfold skipLabels at h
    split at h
    · rename_i r
      split at h
      · rename_i r' closed
        rw [tight_cons (by decide), List.length_cons] at enough'
        obtain ⟨fuel', rfl⟩ : ∃ k, fuel' = k + 1 := ⟨fuel' - 1, by omega⟩
        have inside : r' <:+ r := by
          have dropped : ']' :: r' <:+ r := closed ▸ List.dropWhile_suffix _
          exact (List.suffix_cons _ _).trans dropped
        have after := (skipSpace_suffix r').trans inside
        have shorter := after.length_le
        have shorter' := tight_length_le after
        rw [List.length_cons] at enough
        obtain ⟨suffix, again⟩ := skipLabels_tight (by omega) (by omega : (tight (skipSpace r')).length ≤ fuel')
          (fun c first => ne_space_of_solid (head?_skipSpace_solid first)) h
        refine ⟨suffix.trans (after.trans (List.suffix_cons _ _)), ?_⟩
        have closed' := dropWhile_tight (q := fun c => c ≠ ']' && c ≠ '\n') rfl r
        rw [closed, tight_cons (by decide)] at closed'
        rw [tight_cons (by decide)]
        simp only [skipLabels, closed', skipSpace_tight, again]
      · cases h
    · rename_i no_label
      cases h
      refine ⟨List.suffix_rfl, ?_⟩
      cases fuel' with
      | zero => rfl
      | succ fuel' =>
        cases s with
        | nil => rfl
        | cons c t =>
          rw [tight_cons (solid c rfl)]
          unfold skipLabels
          split
          · rename_i same
            cases same
            exact (no_label _ rfl).elim
          · rfl

theorem before_of_skipLabels {fuel : Nat} {s rest : List Char} (h : skipLabels fuel s = .ok rest)
    (ends : Before endings rest) : Before ('[' :: endings) s := by
  cases fuel with
  | zero =>
    cases h
    exact fun c first => List.mem_cons_of_mem _ (ends c first)
  | succ fuel =>
    unfold skipLabels at h
    split at h
    · intro c first
      cases first
      exact List.mem_cons_self
    · cases h
      exact fun c first => List.mem_cons_of_mem _ (ends c first)

/-- What is read with the space and the labels after it. -/
def labelled (read : Notation × List Char) : Except Fault (Notation × List Char) := do
  let rest ← skipLabels read.2.length (skipSpace read.2)
  return (read.1, rest)

theorem labelled_tight {m n : Notation} {q rest : List Char} (h : labelled (m, q) = .ok (n, rest)) :
    rest <:+ q ∧ (Before endings rest → Edge q ∧ labelled (m, tight q) = .ok (n, tight rest)) := by
  obtain ⟨left, labels, h⟩ := ok_of_bind h
  cases h
  have after := skipSpace_suffix q
  obtain ⟨suffix, again⟩ := skipLabels_tight after.length_le (tight_length_le after)
    (fun c head => ne_space_of_solid (head?_skipSpace_solid head)) labels
  refine ⟨suffix.trans after, fun ends => ⟨before_of_skipLabels labels ends, ?_⟩⟩
  simp only [labelled, skipSpace_tight, again]
  rfl

theorem operand_paren (inner : Scan Notation) (s : List Char) :
    operand inner ('(' :: s) = parenthesized inner s >>= labelled := rfl

theorem operand_numeral {inner : Scan Notation} {s : List Char} (first : s.head? ≠ some '(') :
    operand inner s = numeral s >>= labelled := by
  unfold operand
  split
  · exact (first rfl).elim
  · rfl

/-! ## Levels -/

section Levels

variable {inner inner' : Scan Notation} {b : Nat}

theorem before_of_members {fuel : Nat} {s rest : List Char} {read : List Notation × Bool}
    (h : members inner fuel s = .ok (read, rest)) : Before closings s := by
  cases fuel with
  | zero => cases h
  | succ fuel =>
    unfold members at h
    split at h
    · intro c first
      cases first
      decide
    · intro c first
      cases first
      decide
    · cases h

/-- What is read where an operand begins is read behind the spaces. -/
theorem begun_tight {p : Scan Notation} (begins : Begins p) {s rest : List Char} {n : Notation}
    (h : p s = .ok (n, rest)) : ∃ c t, s = c :: t ∧ tight s = c :: tight t ∧ isStart c = true := by
  obtain ⟨c, first, start⟩ := begins s n rest h
  obtain ⟨t, own, gone⟩ := tight_of_head first (solid_of_start start)
  exact ⟨c, t, own, gone, start⟩

theorem members_tight (begins : Begins inner)
    (shorter : ∀ s : List Char, (tight s).length < b → Tightens inner inner' (Before closings) s) :
    ∀ {fuel fuel' : Nat} {s rest : List Char} {read : List Notation × Bool}, (tight s).length ≤ b →
      (tight s).length ≤ fuel' → members inner fuel s = .ok (read, rest) →
        rest <:+ s ∧ members inner' fuel' (tight s) = .ok (read, tight rest)
  | 0, _, _, _, _, _, _, h => by cases h
  | fuel + 1, fuel', s, rest, read, bound, enough, h => by
    unfold members at h
    split at h
    · cases h
      rw [tight_cons (by decide), List.length_cons] at enough
      obtain ⟨fuel', rfl⟩ : ∃ k, fuel' = k + 1 := ⟨fuel' - 1, by omega⟩
      refine ⟨List.suffix_cons _ _, ?_⟩
      rw [tight_cons (by decide)]
      rfl
    · rename_i r
      have after : skipSpace r <:+ ',' :: r := (skipSpace_suffix r).trans (List.suffix_cons _ _)
      rw [tight_cons (by decide), List.length_cons] at bound enough
      rw [tight_cons (by decide)]
      obtain ⟨fuel', rfl⟩ : ∃ k, fuel' = k + 1 := ⟨fuel' - 1, by omega⟩
      split at h
      · rename_i r' closed
        cases h
        refine ⟨(closed ▸ List.suffix_cons _ _ : rest <:+ skipSpace r).trans after, ?_⟩
        simp only [members, skipSpace_tight, closed, tight_cons (by decide : ')' ≠ ' ')]
      · rename_i open_still
        obtain ⟨⟨member, r'⟩, first, h⟩ := ok_of_bind h
        obtain ⟨⟨⟨further, comma⟩, r''⟩, others, h⟩ := ok_of_bind h
        cases h
        have room := tight_length_le (skipSpace_suffix r)
        obtain ⟨suffix, first_tight⟩ := shorter (skipSpace r) (by omega) member r' first
        have room' := tight_length_le suffix
        obtain ⟨suffix', others_tight⟩ := members_tight begins shorter (by omega) (by omega : _ ≤ fuel') others
        refine ⟨suffix'.trans (suffix.trans after), ?_⟩
        have first_read := first_tight (before_of_members others)
        obtain ⟨c, t, own, gone, start⟩ := begun_tight begins first
        simp only [members, skipSpace_tight]
        split
        · rename_i same
          rw [gone] at same
          cases same
          exact absurd start (by decide)
        · rw [first_read]
          simp only [bind, Except.bind, others_tight]
          rfl
    · cases h

theorem parenthesized_tight (begins : Begins inner)
    (shorter : ∀ s : List Char, (tight s).length < b → Tightens inner inner' (Before closings) s) {s : List Char}
    (bound : (tight s).length < b) : Tightens (parenthesized inner) (parenthesized inner') Edge s := by
  intro n rest h
  have room := tight_length_le (skipSpace_suffix s)
  unfold parenthesized at h
  split at h
  · rename_i r closed
    obtain ⟨⟨adjs, left⟩, adjusted, h⟩ := ok_of_bind h
    cases h
    obtain ⟨suffix, again⟩ := adjustments_tight names_set adjusted
    have inside : r <:+ skipSpace s := closed ▸ List.suffix_cons _ _
    refine ⟨suffix.trans (inside.trans (skipSpace_suffix s)), fun edge => ?_⟩
    simp only [parenthesized, skipSpace_tight, closed, tight_cons (by decide : ')' ≠ ' '), (again edge).1]
    rfl
  · rename_i open_still
    obtain ⟨⟨first, r⟩, head, h⟩ := ok_of_bind h
    obtain ⟨⟨⟨further, comma⟩, r'⟩, others, h⟩ := ok_of_bind h
    obtain ⟨⟨adjs, left⟩, adjusted, h⟩ := ok_of_bind h
    obtain ⟨suffix, first_tight⟩ := shorter (skipSpace s) (by omega) first r head
    have room' := tight_length_le suffix
    obtain ⟨suffix', others_tight⟩ := members_tight begins shorter (by omega) room' others
    obtain ⟨suffix'', again⟩ := adjustments_tight names_set adjusted
    have first_read := first_tight (before_of_members others)
    obtain ⟨c, t, own, gone, start⟩ := begun_tight begins head
    have whole := suffix''.trans (suffix'.trans (suffix.trans (skipSpace_suffix s)))
    -- A group and a set differ in what is made of the parts only.
    have opened (edge : Edge left) : parenthesized inner' (tight s) =
        if further.isEmpty && !comma then .ok (.group first adjs, tight left)
        else .ok (.set (first :: further) adjs, tight left) := by
      simp only [parenthesized, skipSpace_tight]
      split
      · rename_i same
        rw [gone] at same
        cases same
        exact absurd start (by decide)
      · rw [first_read]
        simp only [bind, Except.bind, others_tight, (again edge).1]
        rfl
    dsimp only at h
    split at h <;> rename_i alone <;> cases h <;> refine ⟨whole, fun edge => ?_⟩ <;> rw [opened edge]
    · rw [if_pos alone]
    · rw [if_neg alone]

theorem operand_tight (begins : Begins inner)
    (shorter : ∀ s : List Char, (tight s).length < b → Tightens inner inner' (Before closings) s) {s : List Char}
    (bound : (tight s).length ≤ b) : Tightens (operand inner) (operand inner') (Before endings) s := by
  intro n rest h
  cases paren : s.head? == some '(' with
  | true =>
    obtain ⟨r, rfl⟩ := List.head?_eq_some_iff.1 (beq_iff_eq.1 paren)
    rw [operand_paren] at h
    obtain ⟨⟨m, q⟩, inside, h⟩ := ok_of_bind h
    rw [tight_cons (by decide), List.length_cons] at bound
    obtain ⟨suffix, again⟩ := parenthesized_tight begins shorter (by omega) m q inside
    obtain ⟨suffix', labels⟩ := labelled_tight h
    refine ⟨suffix'.trans (suffix.trans (List.suffix_cons _ _)), fun ends => ?_⟩
    obtain ⟨edge, labels_read⟩ := labels ends
    rw [tight_cons (by decide), operand_paren, again edge]
    exact labels_read
  | false =>
    rw [operand_numeral (beq_eq_false_iff_ne.1 paren)] at h
    obtain ⟨⟨m, q⟩, number, h⟩ := ok_of_bind h
    obtain ⟨suffix, again⟩ := numeral_tight s m q number
    obtain ⟨suffix', labels⟩ := labelled_tight h
    refine ⟨suffix'.trans suffix, fun ends => ?_⟩
    obtain ⟨edge, labels_read⟩ := labels ends
    obtain ⟨c, head, start, other⟩ := begins_numeral number
    obtain ⟨t, -, gone⟩ := tight_of_head head (solid_of_start start)
    have no_paren : (tight s).head? ≠ some '(' := by
      rw [gone]
      rintro ⟨⟩
      exact other rfl
    rw [operand_numeral no_paren, again edge]
    exact labels_read

theorem signedUpTo_tight (begins : Begins inner)
    (shorter : ∀ s : List Char, (tight s).length < b → Tightens inner inner' (Before closings) s) :
    ∀ {fuel fuel' : Nat} {s : List Char}, (tight s).length ≤ b → s.length ≤ fuel → (tight s).length ≤ fuel' →
      Tightens (signedUpTo inner fuel) (signedUpTo inner' fuel') (Before endings) s
  | 0, fuel', s, bound, enough, _, n, rest, h => by
    have empty : s = [] := List.eq_nil_of_length_eq_zero (Nat.le_zero.1 enough)
    subst empty
    obtain ⟨c, head, -⟩ := begins_operand inner [] n rest h
    cases head
  | fuel + 1, fuel', s, bound, enough, enough', n, rest, h => by
    obtain ⟨c, t, rfl, gone, -⟩ := begun_tight (begins_signedUpTo inner (fuel + 1)) h
    rw [gone, List.length_cons] at enough'
    rw [gone]
    obtain ⟨fuel', rfl⟩ : ∃ k, fuel' = k + 1 := ⟨fuel' - 1, by omega⟩
    cases sign : negative? c with
    | some negative =>
      have after := skipSpace_suffix t
      have room := after.length_le
      have room' := tight_length_le after
      rw [gone, List.length_cons] at bound
      rw [List.length_cons] at enough
      rw [signedUpTo_sign sign] at h ⊢
      obtain ⟨⟨m, left⟩, deeper, h⟩ := ok_of_map h
      cases h
      obtain ⟨suffix, again⟩ := signedUpTo_tight begins shorter (by omega) (by omega)
        (by omega : (tight (skipSpace t)).length ≤ fuel') m left deeper
      refine ⟨suffix.trans (after.trans (List.suffix_cons _ _)), fun ends => ?_⟩
      rw [skipSpace_tight, again ends]
      rfl
    | none =>
      rw [signedUpTo_unsigned sign] at h ⊢
      rw [← gone]
      exact operand_tight begins shorter bound n rest h

end Levels

/-! ## Signs between operands -/

/-- Signs of one precedence: each stands where an operand ends, no sign goes on as another one with what an operand
begins with, and where a sign's first character stands before what may come next, that character is a sign itself. -/
structure Signs (signs : List (String × Operation)) (stop : List Char) : Prop where
  solid : ∀ e ∈ signs, ' ' ∉ e.1.toList
  heads : ∀ e ∈ signs, e.1.toList.head?.any endings.contains
  apart : ∀ e ∈ signs, ∀ f ∈ signs, f.1.toList <+: e.1.toList →
    (e.1.toList.drop f.1.toList.length).head?.all fun c => !isSpace c && !isStart c
  led : ∀ e ∈ signs, e.1.toList.head?.all fun c => !stop.contains c || signs.any fun f => f.1.toList == [c]
  stops : stop.all endings.contains

theorem signs_product : Signs productSigns endings := ⟨by decide, by decide, by decide, by decide, by decide⟩

theorem signs_sum : Signs sumSigns endings := ⟨by decide, by decide, by decide, by decide, by decide⟩

theorem signs_comparison : Signs comparisonSigns closings := ⟨by decide, by decide, by decide, by decide, by decide⟩

section Joined

variable {signs : List (String × Operation)} {stop : List Char} {next next' : Scan Notation} {b : Nat}

theorem Signs.ends (known : Signs signs stop) {c : Char} (mem : c ∈ stop) : c ∈ endings :=
  List.contains_iff_mem.1 (List.all_eq_true.1 known.stops c mem)

/-- No sign comes about where the operands end. -/
theorem Signs.ended (known : Signs signs stop) {s : List Char} (ends : Before stop s) (none : word? signs s = none) :
    word? signs (tight s) = .none := by
  rw [word?_eq_none_iff] at none ⊢
  rintro e mem ⟨t, parts⟩
  obtain ⟨c, u, word, -⟩ := cons_of_head?_any (known.heads e mem)
  have led := known.led e mem
  rw [word] at parts led
  cases s with
  | nil => cases parts
  | cons x r =>
    have closing := ends x rfl
    have solid : x ≠ ' ' := by
      rintro rfl
      exact absurd (known.ends closing) (by decide)
    rw [tight_cons solid, List.cons_append, List.cons.injEq] at parts
    obtain ⟨rfl, -⟩ := parts
    rw [List.head?_cons, Option.all_some, List.contains_iff_mem.2 closing, Bool.not_true, Bool.false_or,
      List.any_eq_true] at led
    obtain ⟨f, listed, single⟩ := led
    exact none f listed ⟨r, by rw [beq_iff_eq.1 single]; rfl⟩

theorem joinUpTo_tight (known : Signs signs stop) (begins : Begins next)
    (tightens : ∀ s : List Char, (tight s).length ≤ b → Tightens next next' (Before endings) s) :
    ∀ {fuel fuel' : Nat} {left n : Notation} {s rest : List Char}, (tight s).length ≤ b → s.length ≤ fuel →
      (tight s).length ≤ fuel' → joinUpTo signs next fuel left s = .ok (n, rest) →
        rest <:+ s ∧ (Before stop rest → Before endings s ∧
          joinUpTo signs next' fuel' left (tight s) = .ok (n, tight rest))
  | 0, fuel', left, n, s, rest, bound, enough, enough', h => by
    have empty : s = [] := List.eq_nil_of_length_eq_zero (Nat.le_zero.1 enough)
    subst empty
    cases h
    refine ⟨List.suffix_rfl, fun ends => ⟨nofun, ?_⟩⟩
    cases fuel' with
    | zero => rfl
    | succ fuel' =>
      have none := word?_nil known.heads
      simp only [joinUpTo, tight, List.filter_nil, none]
  | fuel + 1, fuel', left, n, s, rest, bound, enough, enough', h => by
    rw [joinUpTo] at h
    cases found : word? signs s with
    | none =>
      rw [found] at h
      cases h
      refine ⟨List.suffix_rfl, fun ends => ⟨fun c first => known.ends (ends c first), ?_⟩⟩
      cases fuel' with
      | zero => rfl
      | succ fuel' => simp only [joinUpTo, known.ended ends found]
    | some picked =>
      obtain ⟨operation, r⟩ := picked
      rw [found] at h
      obtain ⟨⟨right, r'⟩, read, h⟩ := ok_of_bind h
      obtain ⟨w, mem, parts⟩ := word?_some found
      obtain ⟨c, t, word, ending⟩ := cons_of_head?_any (known.heads _ mem)
      have joined : tight s = w.toList ++ tight r := by rw [parts, tight_append, tight_of_solid (known.solid _ mem)]
      have after := skipSpace_suffix r
      have room := after.length_le
      have room' := tight_length_le after
      rw [parts, word, List.length_append, List.length_cons] at enough
      rw [joined, word, List.length_append, List.length_cons] at bound enough'
      obtain ⟨fuel', rfl⟩ : ∃ k, fuel' = k + 1 := ⟨fuel' - 1, by omega⟩
      obtain ⟨suffix, right_tight⟩ := tightens (skipSpace r) (by omega) right r' read
      have shorter := suffix.length_le
      have shorter' := tight_length_le suffix
      obtain ⟨suffix', others_tight⟩ := joinUpTo_tight known begins tightens (by omega) (by omega)
        (by omega : (tight r').length ≤ fuel') h
      refine ⟨suffix'.trans (suffix.trans (after.trans ⟨w.toList, parts.symm⟩)), fun ends => ⟨?_, ?_⟩⟩
      · rw [parts, word]
        rintro x ⟨⟩
        exact List.contains_iff_mem.1 ending
      · obtain ⟨stands, others_read⟩ := others_tight ends
        -- Behind the sign stands an operand, which makes no other sign of it.
        have again := word?_found known.solid _ known.apart found fun x first => by
          obtain ⟨y, head', start⟩ := begins (skipSpace r) right r' read
          rw [Option.mem_def.1 head'] at first
          cases first
          exact start
        simp only [joinUpTo, again, skipSpace_tight, right_tight stands]
        exact others_read

theorem joined_tight (known : Signs signs stop) (begins : Begins next)
    (tightens : ∀ s : List Char, (tight s).length ≤ b → Tightens next next' (Before endings) s) {s : List Char}
    (bound : (tight s).length ≤ b) : Tightens (joined signs next) (joined signs next') (Before stop) s := by
  intro n rest h
  obtain ⟨⟨first, r⟩, read, h⟩ := ok_of_bind h
  obtain ⟨suffix, first_tight⟩ := tightens s bound first r read
  have room := tight_length_le suffix
  obtain ⟨suffix', others_tight⟩ := joinUpTo_tight known begins tightens (by omega) (Nat.le_refl _) (Nat.le_refl _) h
  refine ⟨suffix'.trans suffix, fun ends => ?_⟩
  obtain ⟨stands, others_read⟩ := others_tight ends
  simp only [joined, first_tight stands]
  exact others_read

end Joined

/-! ## Notations -/

theorem comparison_tight {inner inner' : Scan Notation} {b : Nat} (begins : Begins inner)
    (shorter : ∀ s : List Char, (tight s).length < b → Tightens inner inner' (Before closings) s) {s : List Char}
    (bound : (tight s).length ≤ b) : Tightens (comparison inner) (comparison inner') (Before closings) s := by
  have signed_tight (s : List Char) (bound : (tight s).length ≤ b) :
      Tightens (signed inner) (signed inner') (Before endings) s :=
    signedUpTo_tight begins shorter bound (Nat.le_refl _) (Nat.le_refl _)
  have product_tight (s : List Char) (bound : (tight s).length ≤ b) :
      Tightens (product inner) (product inner') (Before endings) s :=
    joined_tight signs_product (fun s n rest => begins_signedUpTo inner s.length s n rest) signed_tight bound
  have sum_tight (s : List Char) (bound : (tight s).length ≤ b) :
      Tightens (sum inner) (sum inner') (Before endings) s :=
    joined_tight signs_sum (begins_product inner) product_tight bound
  exact joined_tight signs_comparison (begins_joined sumSigns (begins_product inner)) sum_tight bound

/-- **The spaces of a notation carry nothing**: parentheses nest less deep than there are characters. -/
theorem nested_tight : ∀ {depth depth' : Nat} {s : List Char}, (tight s).length < depth' →
    Tightens (nested depth) (nested depth') (Before closings) s
  | 0, _, _, _ => fun _ _ h => by cases h
  | depth + 1, 0, _, bound => (Nat.not_lt_zero _ bound).elim
  | depth + 1, depth' + 1, s, bound => by
    refine comparison_tight (b := depth') (begins_nested depth) (fun s' shorter => ?_) (Nat.le_of_lt_succ bound)
    exact nested_tight shorter

end Reader

theorem Cup.withoutSpaces_toList (t : String) : (Cup.withoutSpaces t).toList = Reader.tight t.toList := by
  rw [Cup.withoutSpaces, String.toList_ofList]
  rfl

/-- **A text that is a notation is the same notation without its spaces.** -/
theorem Notation.parse_withoutSpaces {t : String} {n : Notation} (h : Notation.parse t = .ok n) :
    Notation.parse (Cup.withoutSpaces t) = .ok n := by
  unfold Notation.parse at h
  split at h
  · rename_i read
    cases h
    have bound : (Reader.tight t.toList).length < (Cup.withoutSpaces t).length + 1 := by
      rw [← Cup.withoutSpaces_toList, String.length_toList]
      exact Nat.lt_succ_self _
    obtain ⟨-, again⟩ := Reader.nested_tight bound n [] read
    rw [Notation.parse, Cup.withoutSpaces_toList, again nofun]
    rfl
  · cases h
  · cases h

end Bestiary.Dice
