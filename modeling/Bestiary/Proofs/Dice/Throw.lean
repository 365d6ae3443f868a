import Bestiary.Proofs.Dice.Addition
/-!
# Throw — the dice of an addition, one after the other

Dice are thrown from left to right and each uses one face of the hand (`Hand.shows`).  What a notation with dice that
are only added comes to is what they show and a number besides, which does not depend on the faces (`Adds`).  An
addition is such a notation, with the sum of its numbers (`Addition.adds`).
-/
namespace Bestiary.Dice

namespace Hand

/-- The hand after so many dice. -/
def advance (n : Nat) (h : Hand) : Hand := { h with shown := h.shown + n, thrown := h.thrown + n }

theorem advance_advance (n m : Nat) (h : Hand) : (h.advance n).advance m = h.advance (n + m) := by
  simp only [advance, Nat.add_assoc]

/-- What dice with these sides show, one after the other. -/
def shows (h : Hand) (sides : List Nat) : List Nat :=
  sides.mapIdx fun n s => (Sides.faces s).shown (h.advance n).next

theorem shows_cons (h : Hand) (s : Nat) (ss : List Nat) :
    h.shows (s :: ss) = (Sides.faces s).shown h.next :: (h.advance 1).shows ss := by
  simp only [shows, List.mapIdx_cons, advance_advance, Nat.add_comm]
  rfl

theorem shows_append (h : Hand) (ss ts : List Nat) :
    h.shows (ss ++ ts) = h.shows ss ++ (h.advance ss.length).shows ts := by
  simp only [shows, List.mapIdx_append, advance_advance, Nat.add_comm]

/-- Each die shows a number of its own. -/
theorem shows_range (h : Hand) {ss : List Nat} (positive : ∀ s ∈ ss, 0 < s) :
    List.Forall₂ (fun s d => 1 ≤ d ∧ d ≤ s) ss (h.shows ss) := by
  induction ss generalizing h with
  | nil => exact .nil
  | cons s ss ih =>
    rw [List.forall_mem_cons] at positive
    rw [shows_cons]
    exact .cons ⟨Sides.one_le_shown s positive.1 _, Sides.shown_le s positive.1 _⟩ (ih _ positive.2)

/-- **Dice are thrown one after the other**, as long as there is room for them. -/
theorem throwDice_faces {s : Nat} (positive : 0 < s) : ∀ (n : Nat) (h : Hand), h.thrown + n ≤ limit →
    (throwDice (.faces s) n).run h = (.ok ((h.shows (List.replicate n s)).map fun d => ⟨d, true⟩), h.advance n)
  | 0, _, _ => rfl
  | n + 1, h, room => by
    have die : (throwDie (.faces s)).run h = (.ok ⟨(Sides.faces s).shown h.next, true⟩, h.advance 1) := by
      have sided : Sides.faces s ≠ .faces 0 := fun same => Nat.ne_of_gt positive (Sides.faces.inj same)
      rw [Act.run, throwDie, if_neg sided, if_neg (by omega)]
      rfl
    have dice := throwDice_faces positive n (h.advance 1) (by simp only [advance]; omega)
    simp only [throwDice, Act.run_bind, die, dice, Act.run_pure, List.replicate_succ, shows_cons, List.map_cons,
      advance_advance, Nat.add_comm 1 n]

end Hand

/-! ## Sums of dice and a number -/

/-- **Thrown from any hand with room for them, the notation has dice with these sides and comes to their sum and this
number.** -/
def Adds (n : Notation) (sides : List Nat) (m : Int) : Prop :=
  ∀ h : Hand, h.thrown + sides.length ≤ Hand.limit → ∃ r, n.thrown.run h = (.ok r, h.advance sides.length) ∧
    r.keptDice = h.shows sides ∧ r.total = .ok (.whole ((h.shows sides).sum + m))

namespace Adds

variable {a b : Notation} {ss ts : List Nat} {m k : Int}

theorem number (n : Int) : Adds (.number (.whole n)) [] n := by
  intro h _
  refine ⟨.number true (.whole n), by rw [Notation.thrown]; rfl, rfl, ?_⟩
  simp [Rolled.total, Hand.shows]

theorem dice (count : Nat) {s : Nat} (positive : 0 < s) :
    Adds (.dice count (.faces s) []) (List.replicate count s) 0 := by
  intro h room
  rw [List.length_replicate] at room ⊢
  refine ⟨.dice true ((h.shows (List.replicate count s)).map fun d => ⟨d, true⟩), ?_, ?_, ?_⟩
  · rw [Notation.thrown, Act.run_bind, Hand.throwDice_faces positive count h room]
    rfl
  · simp [Rolled.keptDice, List.filter_map, Function.comp_def]
  · simp [Rolled.total, Die.sum, List.filter_map, Function.comp_def, List.sum_eq_foldr]

theorem signed_run (adds : Adds a ss m) (negative : Bool) (h : Hand) (room : h.thrown + ss.length ≤ Hand.limit) :
    ∃ x, (Notation.thrown (.signed negative a)).run h = (.ok (.signed true negative x), h.advance ss.length) ∧
      x.keptDice = h.shows ss ∧ x.total = .ok (.whole ((h.shows ss).sum + m)) := by
  obtain ⟨x, run, dice, total⟩ := adds h room
  refine ⟨x, ?_, dice, total⟩
  rw [Notation.thrown, Act.run_bind, run]
  rfl

theorem plus (adds : Adds a ss m) : Adds (.signed false a) ss m := by
  intro h room
  obtain ⟨x, run, dice, total⟩ := signed_run adds false h room
  refine ⟨.signed true false x, run, dice, ?_⟩
  rw [Rolled.total, if_pos rfl, total]
  rfl

/-- What has no dice can be made negative. -/
theorem minus (adds : Adds a [] m) : Adds (.signed true a) [] (-m) := by
  intro h room
  obtain ⟨x, run, dice, total⟩ := signed_run adds true h room
  refine ⟨.signed true true x, run, dice, ?_⟩
  rw [Rolled.total, if_pos rfl, total]
  simp [Hand.shows, Amount.neg, bind, Except.bind, pure, Except.pure]

/-- The dice to the left are thrown first. -/
theorem binary_run (left : Adds a ss m) (right : Adds b ts k) (operation : Operation) (h : Hand)
    (room : h.thrown + (ss ++ ts).length ≤ Hand.limit) :
    ∃ x y, (Notation.thrown (.binary a operation b)).run h =
        (.ok (.binary true x operation y), h.advance (ss ++ ts).length) ∧
      x.keptDice ++ y.keptDice = h.shows (ss ++ ts) ∧ x.total = .ok (.whole ((h.shows ss).sum + m)) ∧
      y.total = .ok (.whole (((h.advance ss.length).shows ts).sum + k)) := by
  rw [List.length_append] at room ⊢
  obtain ⟨x, run, dice, total⟩ := left h (by omega)
  -- The right side is thrown from the hand that the left side leaves.
  obtain ⟨y, run', dice', total'⟩ := right (h.advance ss.length) (by simp only [Hand.advance]; omega)
  refine ⟨x, y, ?_, by rw [dice, dice', Hand.shows_append], total, total'⟩
  rw [Notation.thrown, Act.run_bind, run]
  dsimp only
  rw [Act.run_bind, run', Hand.advance_advance]
  rfl

theorem add (left : Adds a ss m) (right : Adds b ts k) : Adds (.binary a .add b) (ss ++ ts) (m + k) := by
  intro h room
  obtain ⟨x, y, run, dice, total, total'⟩ := binary_run left right .add h room
  refine ⟨.binary true x .add y, run, dice, ?_⟩
  rw [Rolled.total, if_pos rfl, total, total', Hand.shows_append, List.sum_append]
  simp only [bind, Except.bind, Amount.join_add_whole, Nat.cast_add]
  congr 2
  omega

/-- What has no dice can be taken away. -/
theorem sub (left : Adds a ss m) (right : Adds b [] k) : Adds (.binary a .sub b) ss (m - k) := by
  intro h room
  rw [← List.append_nil ss] at room
  obtain ⟨x, y, run, dice, total, total'⟩ := binary_run left right .sub h room
  rw [List.append_nil] at run dice
  refine ⟨.binary true x .sub y, run, dice, ?_⟩
  rw [Rolled.total, if_pos rfl, total, total']
  simp only [bind, Except.bind, Amount.join_sub_whole, Hand.shows, List.mapIdx_nil, List.sum_nil]
  congr 2
  omega

end Adds

theorem Term.adds (t : Term) : Adds t.meaning t.sides t.modifier := by
  cases t with
  | number sign n =>
    rcases sign with _ | _ | _
    · exact .number n.value
    · exact (Adds.number n.value).plus
    · exact (Adds.number n.value).minus
  | dice plus p =>
    have dice := Adds.dice p.dice p.some_sides
    cases plus with
    | false => exact dice
    | true => exact dice.plus

/-- One more addend: dice are added, and a number is added or taken away. -/
theorem Adds.addend {left : Notation} {ss : List Nat} {m : Int} (adds : Adds left ss m) (a : Addend) :
    Adds (.binary left a.operation a.term.meaning) (ss ++ a.term.sides) (m + a.modifier) := by
  cases a with
  | plus t => exact adds.add t.adds
  | minus sign n =>
    have taken := adds.sub (Term.adds (.number sign n))
    rw [Int.sub_eq_add_neg] at taken
    rw [show (Addend.minus sign n).term.sides = [] from rfl, List.append_nil]
    exact taken

/-- **An addition comes to what its dice show and its numbers besides.** -/
theorem Addition.adds (x : Addition) : Adds x.meaning x.sides x.modifier := by
  have joined : ∀ (as : List Addend) {left : Notation} {ss : List Nat} {m : Int}, Adds left ss m →
      Adds (as.foldl (fun left a => .binary left a.operation a.term.meaning) left)
        (ss ++ as.flatMap fun a => a.term.sides) (m + (as.map Addend.modifier).sum) := by
    intro as
    -- What stands to the left grows with every addend, so it is arbitrary in the induction.
    induction as with
    | nil =>
      intro left ss m adds
      simpa using adds
    | cons a as ih =>
      intro left ss m adds
      rw [List.foldl_cons, List.flatMap_cons, List.map_cons, List.sum_cons, ← List.append_assoc, ← Int.add_assoc]
      exact ih (adds.addend a)
  exact joined x.rest x.first.adds

theorem Addition.positive (x : Addition) : ∀ s ∈ x.sides, 0 < s := by
  have own (t : Term) : ∀ s ∈ t.sides, 0 < s := by
    intro s hs
    cases t with
    | number sign n => cases hs
    | dice plus p =>
      rw [List.eq_of_mem_replicate hs]
      exact p.some_sides
  intro s hs
  rcases List.mem_append.1 hs with first | rest
  · exact own x.first s first
  · obtain ⟨a, -, ha⟩ := List.mem_flatMap.1 rest
    exact own a.term s ha

end Bestiary.Dice
