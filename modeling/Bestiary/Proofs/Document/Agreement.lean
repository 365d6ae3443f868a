import Bestiary.Intake.Record
/-!
# Agreement — two readings that come to the same

Two readings agree if from every supply they answer the same value or both refuse, and leave the same supply.  What they
refuse with may differ: issues name the places that they were found at.  Agreement goes through everything that readings
are built of.
-/
namespace Bestiary
namespace Intake

/-- Two answers with the same value, or two refusals, and the same supply. -/
inductive Alike {α : Type} : Except (List Issue) α × Supply → Except (List Issue) α × Supply → Prop where
  | accepted (a s) : Alike (.ok a, s) (.ok a, s)
  | refused (issues further s) : Alike (.error issues, s) (.error further, s)

theorem Alike.accepted_iff {α : Type} {x y : Except (List Issue) α × Supply} (h : Alike x y) (a : α) (s : Supply) :
    x = (.ok a, s) ↔ y = (.ok a, s) := by
  cases h <;> simp

/-- **Two readings that come to the same**, from every supply. -/
def Agree {α : Type} (m n : Intake α) : Prop := ∀ s, Alike (m.run s) (n.run s)

namespace Agree

variable {α β : Type} {m m' : Intake α} {n n' : Intake β}

theorem refl (m : Intake α) : Agree m m := by
  intro s
  rcases m.run s with ⟨issues | a, s⟩
  · exact .refused issues issues s
  · exact .accepted a s

theorem split (h : Agree m m') (s : Supply) :
    (∃ a t, m s = (.ok a, t) ∧ m' s = (.ok a, t)) ∨
    ∃ issues further t, m s = (.error issues, t) ∧ m' s = (.error further, t) := by
  have answers := h s
  unfold run at answers
  generalize m s = x at answers
  generalize m' s = y at answers
  cases answers with
  | accepted a t => exact .inl ⟨a, t, rfl, rfl⟩
  | refused issues further t => exact .inr ⟨issues, further, t, rfl, rfl⟩

theorem map (f : α → β) (h : Agree m m') : Agree (f <$> m) (f <$> m') := by
  intro s
  simp only [run, Functor.map, Intake.map]
  rcases h.split s with ⟨a, t, left, right⟩ | ⟨issues, further, t, left, right⟩
  · rw [left, right]
    exact .accepted (f a) t
  · rw [left, right]
    exact .refused issues further t

theorem pair (h : Agree m m') (k : Agree n n') : Agree (Intake.pair m n) (Intake.pair m' n') := by
  intro s
  simp only [run, Intake.pair]
  rcases h.split s with ⟨a, t, left, right⟩ | ⟨issues, further, t, left, right⟩
  · rw [left, right]
    dsimp only
    rcases k.split t with ⟨b, u, left, right⟩ | ⟨issues, further, u, left, right⟩
    · rw [left, right]
      exact .accepted (a, b) u
    · rw [left, right]
      exact .refused issues further u
  · rw [left, right]
    dsimp only
    rcases k.split t with ⟨b, u, left, right⟩ | ⟨others, more, u, left, right⟩
    · rw [left, right]
      exact .refused issues further u
    · rw [left, right]
      exact .refused (issues ++ others) (further ++ more) u

theorem seq {f f' : Intake (α → β)} (h : Agree f f') (k : Agree m m') : Agree (f <*> m) (f' <*> m') :=
  map (fun (p : (α → β) × α) => p.1 p.2) (pair h k)

theorem seqLeft (h : Agree m m') (k : Agree n n') : Agree (m <* n) (m' <* n') :=
  map Prod.fst (pair h k)

theorem inside (place place' : Issue.Place) (h : Agree m m') :
    Agree (Intake.inside place m) (Intake.inside place' m') := by
  intro s
  simp only [run, Intake.inside]
  rcases h.split s with ⟨a, t, left, right⟩ | ⟨issues, further, t, left, right⟩
  · rw [left, right]
    exact .accepted a t
  · rw [left, right]
    exact .refused _ _ t

theorem check (test : α → Except Issue.Cause β) (h : Agree m m') : Agree (Intake.check m test) (Intake.check m' test) := by
  intro s
  simp only [run, Intake.check]
  rcases h.split s with ⟨a, t, left, right⟩ | ⟨issues, further, t, left, right⟩
  · rw [left, right]
    exact refl (Intake.ofExcept (test a)) t
  · rw [left, right]
    exact .refused issues further t

end Agree
end Intake
end Bestiary
