import Bestiary.Intake.Scalar
/-!
# Sets of words

A set of words keeps each word once, in the order of their characters' code points.
-/
namespace Bestiary

/-- A set of words. -/
structure WordSet where
  words : List String
  /-- Each is less than those after it. -/
  ordered : words.Pairwise (· < ·)
  deriving DecidableEq, Repr

namespace WordSet

def empty : WordSet := ⟨[], List.Pairwise.nil⟩

/-- The ordered words with one more. -/
def insertInto (w : String) : List String → List String
  | [] => [w]
  | v :: vs => if w < v then w :: v :: vs else if w = v then v :: vs else v :: insertInto w vs

theorem mem_insertInto {w x : String} {vs : List String} : x ∈ insertInto w vs ↔ x = w ∨ x ∈ vs := by
  induction vs with
  | nil => simp [insertInto]
  | cons v vs ih =>
    simp only [insertInto]
    split
    · simp
    · split
      · rename_i h
        subst h
        simp
      · simp only [List.mem_cons, ih]
        exact ⟨fun h => h.elim (fun h => .inr (.inl h)) fun h => h.elim .inl fun h => .inr (.inr h),
          fun h => h.elim (fun h => .inr (.inl h)) fun h => h.elim .inl fun h => .inr (.inr h)⟩

theorem insertInto_ordered (w : String) {vs : List String} (h : vs.Pairwise (· < ·)) :
    (insertInto w vs).Pairwise (· < ·) := by
  induction vs with
  | nil => simp [insertInto]
  | cons v vs ih =>
    rw [List.pairwise_cons] at h
    simp only [insertInto]
    split
    · rename_i hw
      refine List.pairwise_cons.2 ⟨fun x hx => ?_, List.pairwise_cons.2 h⟩
      rcases List.mem_cons.1 hx with rfl | hx
      · exact hw
      · exact String.lt_trans hw (h.1 x hx)
    · split
      · exact List.pairwise_cons.2 h
      · rename_i hw hne
        refine List.pairwise_cons.2 ⟨fun x hx => ?_, ih h.2⟩
        rcases mem_insertInto.1 hx with rfl | hx
        · rcases Decidable.em (v < x) with hv | hv
          · exact hv
          · exact absurd (String.le_antisymm hv hw) hne
        · exact h.1 x hx

/-- The set with one more word. -/
def insert (w : String) (s : WordSet) : WordSet := ⟨insertInto w s.words, insertInto_ordered w s.ordered⟩

/-- The set of the words of a list. -/
def ofList (ws : List String) : WordSet := ws.foldr insert empty

def read : Json → Intake WordSet
  | .arr items => Intake.map ofList (Intake.itemsFrom Intake.text 0 items)
  | _ => Intake.issue .setType

def write (s : WordSet) : Json := Json.texts s.words

end WordSet

end Bestiary
