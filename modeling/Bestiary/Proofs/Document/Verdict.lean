import Mathlib.Data.List.Forall2
import Bestiary.Proofs.Document.Form
/-!
# Verdict — what a reading comes to

From a supply a reading answers a value or refuses, and leaves a supply (`Yields`).  What it comes to goes through
everything that readings are built of, refusals too: a record is refused if one of its fields is, and a list if one of
its items is (`Yields.seq`, `Yields.itemsFrom`).
-/
namespace Bestiary

theorem isSome_mapM_iff {α β : Type} {f : α → Option β} : ∀ {as : List α}, (as.mapM f).isSome ↔ ∀ a ∈ as, (f a).isSome
  | [] => by simp
  | a :: as => by
    rw [List.mapM_cons, List.forall_mem_cons, ← isSome_mapM_iff]
    cases f a <;> cases as.mapM f <;> simp

theorem mapM_eq_some_iff {α β : Type} {f : α → Option β} : ∀ {as : List α} {bs : List β},
    as.mapM f = some bs ↔ List.Forall₂ (fun a b => f a = some b) as bs
  | [], bs => by
    cases bs <;> simp
  | a :: as, bs => by
    rw [List.mapM_cons]
    cases bs with
    | nil => cases f a <;> cases as.mapM f <;> simp
    | cons b bs =>
      rw [List.forall₂_cons, ← mapM_eq_some_iff]
      cases f a <;> cases as.mapM f <;> simp

namespace Intake

variable {α β : Type} {m : Intake α} {n : Intake β} {o : Option α} {s t u : Supply}

/-- **What a reading comes to** from a supply: the value, or none if it refuses, and the supply that it leaves. -/
def Yields (m : Intake α) (s : Supply) (o : Option α) (t : Supply) : Prop :=
  ∃ answer, m.run s = (answer, t) ∧ answer.toOption = o

theorem Reads.yields {a : α} (h : Reads m a) (s : Supply) : Yields m s (some a) s := ⟨_, h s, rfl⟩

namespace Yields

theorem some_iff {a : α} : Yields m s (some a) t ↔ m.run s = (.ok a, t) := by
  constructor
  · rintro ⟨issues | b, read, same⟩
    · cases same
    · rw [read, ← Option.some.inj same]
  · intro read
    exact ⟨_, read, rfl⟩

/-- A reading comes to one thing. -/
theorem unique {p : Option α} (h : Yields m s o t) (k : Yields m s p u) : o = p ∧ t = u := by
  obtain ⟨answer, read, rfl⟩ := h
  obtain ⟨again, reread, rfl⟩ := k
  obtain ⟨rfl, rfl⟩ : answer = again ∧ t = u := by simpa [read] using reread
  exact ⟨rfl, rfl⟩

/-- A reading that comes to the same from every supply answers what it is known to answer. -/
theorem eq_some_of_reads {a : α} (h : ∀ s, Yields m s o s) (k : Reads m a) : o = some a :=
  let s : Supply := ⟨0, ⟨⟨1, 1, 1, 0, 0, 0, 0, none⟩, by decide⟩⟩
  ((h s).unique (k.yields s)).1

theorem of_eq {p : Option α} (h : Yields m s o t) (same : o = p) : Yields m s p t := same ▸ h

theorem map (f : α → β) (h : Yields m s o t) : Yields (f <$> m) s (o.map f) t := by
  obtain ⟨answer, read, rfl⟩ := h
  unfold run at read
  refine ⟨answer.map f, ?_, ?_⟩
  · simp only [run, Functor.map, Intake.map, read]
    cases answer <;> rfl
  · cases answer <;> rfl

theorem pair {p : Option β} (h : Yields m s o t) (k : Yields n t p u) :
    Yields (Intake.pair m n) s (o.bind fun a => p.map fun b => (a, b)) u := by
  obtain ⟨answer, read, rfl⟩ := h
  obtain ⟨next, reread, rfl⟩ := k
  unfold run at read reread
  simp only [Yields, run, Intake.pair, read]
  cases answer <;> cases next <;> simp only [reread] <;> exact ⟨_, rfl, rfl⟩

theorem seq {f : Intake (α → β)} {g : Option (α → β)} (h : Yields f s g t) (k : Yields m t o u) :
    Yields (f <*> m) s (g.bind fun f => o.map f) u := by
  have both := map (fun (p : (α → β) × α) => p.1 p.2) (pair h k)
  rw [Option.map_bind] at both
  simp only [Function.comp_def, Option.map_map] at both
  exact both

theorem seqLeft {b : β} (h : Yields m s o t) (k : Reads n b) : Yields (m <* n) s o t := by
  have both := map Prod.fst (pair h (k.yields t))
  rw [Option.map_bind] at both
  simp only [Function.comp_def, Option.map_some, Option.bind_fun_some] at both
  exact both

theorem inside (place : Issue.Place) (h : Yields m s o t) : Yields (Intake.inside place m) s o t := by
  obtain ⟨answer, read, rfl⟩ := h
  unfold run at read
  simp only [Yields, run, Intake.inside, read]
  cases answer <;> exact ⟨_, rfl, rfl⟩

theorem check (test : α → Except Issue.Cause β) (h : Yields m s o t) :
    Yields (Intake.check m test) s (o.bind fun a => (test a).toOption) t := by
  obtain ⟨answer, read, rfl⟩ := h
  unfold run at read
  simp only [Yields, run, Intake.check, read]
  cases answer with
  | error issues => exact ⟨_, rfl, rfl⟩
  | ok a =>
    dsimp only [Except.toOption, Option.bind_some]
    cases test a <;> exact ⟨_, rfl, rfl⟩

/-- **A list is read if each of its items is.** -/
theorem itemsFrom {γ : Type} {read : α → Intake β} {write : γ → α} {copy? : γ → Option β} :
    ∀ {cs : List γ} (n : Nat), (∀ c ∈ cs, Yields (read (write c)) s (copy? c) s) →
      Yields (Intake.itemsFrom read n (cs.map write)) s (cs.mapM copy?) s
  | [], _, _ => (Reads.pure []).yields s
  | c :: cs, n, each => by
    have first := (each c List.mem_cons_self).inside (.index n)
    have rest := itemsFrom (n + 1) fun d mem => each d (List.mem_cons_of_mem _ mem)
    have both := map (fun (p : β × List β) => p.1 :: p.2) (pair first rest)
    have whole : (c :: cs).mapM copy? =
        ((copy? c).bind fun b => (cs.mapM copy?).map fun bs => (b, bs)).map fun p => p.1 :: p.2 := by
      rw [List.mapM_cons]
      cases copy? c <;> cases cs.mapM copy? <;> rfl
    rw [whole]
    exact both

theorem list {read : Json → Intake β} {write : α → Json} {copy? : α → Option β} {as : List α}
    (each : ∀ a ∈ as, Yields (read (write a)) s (copy? a) s) :
    Yields (Intake.list read (.arr (as.map write))) s (as.mapM copy?) s :=
  itemsFrom 0 each

/-- Null is read as none, and anything else as it is. -/
theorem nullable {read : Json → Intake β} {write : α → Json} {copy? : α → Option β} (shown : ∀ a, write a ≠ .null)
    (o : Option α) (each : ∀ a ∈ o, Yields (read (write a)) s (copy? a) s) :
    Yields (Intake.nullable read ((o.map write).getD .null)) s (o.mapM copy?) s := by
  cases o with
  | none => exact (Reads.pure none).yields s
  | some a =>
    have given : Intake.nullable read (write a) = Intake.map some (read (write a)) := by
      have shown := shown a
      unfold Intake.nullable
      split
      · contradiction
      · rfl
    simp only [Option.map_some, Option.getD_some, given]
    exact map some (each a rfl)

end Yields

namespace Reads.Found

variable {read : Json → Intake α} {form : Form} {entries : Entries} {key : Key} {j : Json}

theorem yields_required (found : Found form entries key j) (h : Yields (read j) s o t) (solid : j ≠ .null := by simp) :
    Yields (Intake.required entries key read) s o t := by
  rw [Intake.required, found.some solid]
  exact h.inside _

theorem yields_field {absent : α} (found : Found form entries key j) (h : Yields (read j) s o t)
    (solid : j ≠ .null := by simp) : Yields (Intake.field entries key absent read) s o t := by
  rw [Intake.field, Intake.made, found.some solid]
  exact h.inside _

theorem yields_optional {p : Option (Option α)} (found : Found form entries key j)
    (h : Yields (Intake.nullable read j) s p s) : Yields (Intake.optional entries key read) s p s := by
  by_cases shown : form.shows j = true
  · rw [Intake.optional, Intake.field, Intake.made, show key.find? entries = _ from found, if_pos shown]
    exact h.inside _
  · have null : j = .null := by
      by_contra solid
      exact shown (by simp [Form.shows, solid])
    subst null
    rw [Intake.optional, Intake.field, Intake.made, show key.find? entries = _ from found, if_neg shown]
    exact h

end Reads.Found

end Intake
end Bestiary
