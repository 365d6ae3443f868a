/-!
# Steps that change a state

An `Act` changes a state and answers something or fails. What it changed before it failed stays changed:
dice that were thrown are gone even when the roll comes to nothing. Laws over whole runs are proved from
`Keeps`, which says how the states before and after a step are related.
-/
namespace Bestiary

/-- A step on states of type `σ` that answers an `α` or fails with an `ε`. -/
def Act (σ ε α : Type) : Type := σ → Except ε α × σ

namespace Act

variable {σ ε α β : Type}

def run (act : Act σ ε α) (s : σ) : Except ε α × σ := act s

/-- The step that changes nothing and answers this. -/
protected def pure (a : α) : Act σ ε α := fun s => (.ok a, s)

/-- One step and, if it did not fail, the step that its answer calls for. -/
protected def bind (act : Act σ ε α) (next : α → Act σ ε β) : Act σ ε β := fun s =>
  match act s with
  | (.ok a, s) => next a s
  | (.error e, s) => (.error e, s)

instance : Monad (Act σ ε) where
  pure := Act.pure
  bind := Act.bind

/-- The step that fails. -/
def fail (e : ε) : Act σ ε α := fun s => (.error e, s)

/-- The state, or what is seen of it. -/
def look (view : σ → α) : Act σ ε α := fun s => (.ok (view s), s)

def modify (change : σ → σ) : Act σ ε Unit := fun s => (.ok (), change s)

/-- The step that always answers. -/
def ofStep (step : σ → α × σ) : Act σ ε α := fun s =>
  let (a, s) := step s
  (.ok a, s)

/-- A value, or the failure to have one. -/
def ofExcept : Except ε α → Act σ ε α
  | .ok a => Act.pure a
  | .error e => fail e

/-- The step on each item in order, until one fails. -/
def each (act : α → Act σ ε β) : List α → Act σ ε (List β)
  | [] => Act.pure []
  | a :: as => Act.bind (act a) fun b => Act.bind (each act as) fun bs => Act.pure (b :: bs)

@[simp] theorem run_pure (a : α) (s : σ) : (pure a : Act σ ε α).run s = (.ok a, s) := rfl

theorem run_bind (act : Act σ ε α) (next : α → Act σ ε β) (s : σ) :
    (act >>= next).run s = match act.run s with
      | (.ok a, s) => (next a).run s
      | (.error e, s) => (.error e, s) := rfl

@[simp] theorem run_fail (e : ε) (s : σ) : (fail e : Act σ ε α).run s = (.error e, s) := rfl

@[simp] theorem run_look (view : σ → α) (s : σ) : (look view : Act σ ε α).run s = (.ok (view s), s) := rfl

@[simp] theorem run_modify (change : σ → σ) (s : σ) :
    (modify change : Act σ ε Unit).run s = (.ok (), change s) := rfl

@[simp] theorem run_ofStep (step : σ → α × σ) (s : σ) :
    (ofStep step : Act σ ε α).run s = (.ok (step s).1, (step s).2) := rfl

/-- The relation holds between the states before and after the step, wherever it starts. -/
def Keeps (R : σ → σ → Prop) (act : Act σ ε α) : Prop := ∀ s, R s (act.run s).2

namespace Keeps

variable {R : σ → σ → Prop}

theorem pure (refl : ∀ s, R s s) (a : α) : Keeps R (Act.pure a : Act σ ε α) := refl

theorem fail (refl : ∀ s, R s s) (e : ε) : Keeps R (Act.fail e : Act σ ε α) := refl

theorem bind (trans : ∀ s t u, R s t → R t u → R s u) {act : Act σ ε α} {next : α → Act σ ε β}
    (first : Keeps R act) (second : ∀ a, Keeps R (next a)) : Keeps R (Act.bind act next) := by
  intro s
  have h := first s
  unfold run at h ⊢
  unfold Act.bind
  split <;> rename_i hs <;> rw [hs] at h
  · exact trans _ _ _ h (second _ _)
  · exact h

theorem each (refl : ∀ s, R s s) (trans : ∀ s t u, R s t → R t u → R s u) {act : α → Act σ ε β} (as : List α)
    (step : ∀ a ∈ as, Keeps R (act a)) : Keeps R (Act.each act as) := by
  induction as with
  | nil => exact pure refl []
  | cons a as ih =>
    refine bind trans (step a (by simp)) fun b => bind trans (ih fun x hx => step x (by simp [hx])) fun bs => ?_
    exact pure refl _

end Keeps

end Act

end Bestiary
