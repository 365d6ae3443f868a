import Bestiary.Proofs.Dice.Total
/-!
# Die — one die after the other

A roll of one die shows what the next face of the cup makes of it, and uses up that face (`Cup.roll_die`).  So the
results of a die at a table are a stream that is read off its cup (`Encounter.shows`, `Encounter.d6`): results from one
to the number of its sides, and whatever results one likes with the right faces (`shows_ofFaces`).
-/
namespace Bestiary.Dice

namespace Cup

theorem faces_learn (cup : Cup) (text : String) : (cup.learn text).faces = cup.faces := by
  unfold learn
  dsimp only
  split <;> rfl

end Cup

end Bestiary.Dice

namespace Bestiary.Encounter

open Dice (Rollable rollable_six)

/-- What a table's die with so many sides shows so many rolls on, read off the cup. -/
def shows (sides : Nat) (e : Encounter) (n : Nat) : Int :=
  (Dice.Sides.faces sides).shown (Dice.Hand.next ⟨e.cup.faces, e.cup.shown + n, 0⟩)

section Rolls

variable {sides : Nat}

theorem rollDie_eq (rollable : Rollable sides) (e : Encounter) :
    rollDie sides e = ((e.cup.nextShown sides : Int), note (.rolled ("1d" ++ toString sides) (e.cup.nextShown sides))
      { e with cup := { e.cup.learn ("1d" ++ toString sides) with shown := e.cup.shown + 1 } }) := by
  simp only [rollDie]
  rw [Dice.Cup.roll_die rollable]

theorem faces_rollDie (rollable : Rollable sides) (e : Encounter) : (rollDie sides e).2.cup.faces = e.cup.faces := by
  rw [rollDie_eq rollable]
  exact Dice.Cup.faces_learn e.cup _

theorem shown_rollDie (rollable : Rollable sides) (e : Encounter) :
    (rollDie sides e).2.cup.shown = e.cup.shown + 1 := by
  rw [rollDie_eq rollable]
  rfl

theorem fst_rollDie (rollable : Rollable sides) (e : Encounter) : (rollDie sides e).1 = e.shows sides 0 := by
  rw [rollDie_eq rollable]
  rfl

theorem shows_congr {e f : Encounter} (faces : f.cup.faces = e.cup.faces) {k : Nat}
    (shown : f.cup.shown = e.cup.shown + k) (n : Nat) : f.shows sides n = e.shows sides (k + n) := by
  simp only [shows, faces, shown, Nat.add_assoc]

theorem shows_range (positive : 0 < sides) (e : Encounter) (n : Nat) :
    1 ≤ e.shows sides n ∧ e.shows sides n ≤ sides := by
  have low := Dice.Sides.one_le_shown sides positive (Dice.Hand.next ⟨e.cup.faces, e.cup.shown + n, 0⟩)
  have high := Dice.Sides.shown_le sides positive (Dice.Hand.next ⟨e.cup.faces, e.cup.shown + n, 0⟩)
  simp only [shows]
  omega

/-- **Every stream of results is that of some dice.** -/
theorem shows_ofFaces (e : Encounter) {rolls : List Int} (on_die : ∀ roll ∈ rolls, 1 ≤ roll ∧ roll ≤ sides) {n : Nat}
    (h : n < rolls.length) : ({ e with cup := .ofFaces rolls } : Encounter).shows sides n = rolls[n] := by
  have some_face : rolls ≠ [] := List.ne_nil_of_length_pos (by omega)
  have face : Dice.Hand.next ⟨rolls, 0 + n, 0⟩ = rolls[n] := by
    simp [Dice.Hand.next, some_face, Nat.mod_eq_of_lt h, h]
  obtain ⟨low, high⟩ := on_die rolls[n] (List.getElem_mem h)
  dsimp only [shows, Dice.Cup.ofFaces]
  rw [face, Dice.Sides.shown, Int.emod_eq_of_lt (by omega) (by omega)]
  omega

/-- So many dice show what comes next and leave the rest for later. -/
theorem rollDice_shows (rollable : Rollable sides) : ∀ (n : Nat) (e : Encounter),
    (rollDice sides n e).1 = (List.range n).map (e.shows sides) ∧
      (rollDice sides n e).2.cup.faces = e.cup.faces ∧ (rollDice sides n e).2.cup.shown = e.cup.shown + n
  | 0, _ => ⟨rfl, rfl, rfl⟩
  | n + 1, e => by
    obtain ⟨rolls, faces, shown⟩ := rollDice_shows rollable n (rollDie sides e).2
    have later : (rollDie sides e).2.shows sides = e.shows sides ∘ Nat.succ := by
      funext k
      rw [shows_congr (faces_rollDie rollable e) (shown_rollDie rollable e), Nat.add_comm, Function.comp_apply]
    simp only [rollDice, rolls, faces, shown, fst_rollDie rollable, faces_rollDie rollable, shown_rollDie rollable,
      later]
    refine ⟨?_, trivial, by omega⟩
    rw [List.range_succ_eq_map, List.map_cons, List.map_map]

end Rolls

/-- What a table's six-sided die shows, roll after roll. -/
def d6 (e : Encounter) : Nat → Int
  | 0 => (rollDie 6 e).1
  | n + 1 => d6 (rollDie 6 e).2 n

theorem shown_rollDie_six (e : Encounter) : (rollDie 6 e).2.cup.shown = e.cup.shown + 1 := shown_rollDie rollable_six e

/-- The stream read off the cup: the face so many places on, brought onto a die. -/
theorem d6_eq : ∀ (n : Nat) (e : Encounter), e.d6 n = e.shows 6 n
  | 0, e => fst_rollDie rollable_six e
  | n + 1, e => by
    rw [d6, d6_eq n, shows_congr (faces_rollDie rollable_six e) (shown_rollDie_six e), Nat.add_comm]

theorem d6_congr {e f : Encounter} (same : f.cup = e.cup) : f.d6 = e.d6 := by
  funext n
  rw [d6_eq, d6_eq, shows, shows, same]

theorem d6_range (e : Encounter) (n : Nat) : 1 ≤ e.d6 n ∧ e.d6 n ≤ 6 := by
  rw [d6_eq]
  exact shows_range (by decide) e n

theorem d6_ofFaces (e : Encounter) {rolls : List Int} (on_die : ∀ roll ∈ rolls, 1 ≤ roll ∧ roll ≤ 6) {n : Nat}
    (h : n < rolls.length) : ({ e with cup := .ofFaces rolls } : Encounter).d6 n = rolls[n] := by
  rw [d6_eq]
  exact shows_ofFaces e on_die h

end Bestiary.Encounter
