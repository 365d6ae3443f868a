import Bestiary.Encounter.Resolution
/-!
# Trace — laws that follow the resolution of effects

`Traced o T` lists what a relation between an encounter, the outcomes of the effects applied in it and the encounter
after them has to satisfy at each step.  A relation that satisfies it holds of every effect tree (`resolve_traced`),
every list of effects (`resolveAll_traced`) and every action (`perform_traced`).
-/
namespace Bestiary
namespace Encounter

/-- **The steps of a resolution**: what joins two runs, what finds targets, rolls saves and reports, and what nests
outcomes. -/
structure Traced (o : Options) (T : Encounter → List Outcome → Encounter → Prop) : Prop where
  nothing : ∀ e, T e [] e
  andThen : ∀ {e f g xs ys}, T e xs f → T f ys g → T e (xs ++ ys) g
  reporting : ∀ n e, T e [] (note n e)
  aiming : ∀ targeting e, T e [] ((targets o targeting).run e).2
  rolling : ∀ c s e, T e [] (rollSave c s e.rule e).2
  striking : ∀ half targeting i e,
    T e [(guarded i.kind (strike o half targeting i) e).1] (guarded i.kind (strike o half targeting i) e).2
  failing : ∀ {kind message e f}, T e [] f → T e [.failed kind message] f
  nesting : ∀ {ids os e f}, T e os f → T e [.area ids os] f
  branching : ∀ {branches e f}, T e (branches.flatMap Prod.snd) f → T e [.save branches] f

namespace Traced

variable {o : Options} {T : Encounter → List Outcome → Encounter → Prop}

theorem quietly (h : Traced o T) {e f g : Encounter} {xs : List Outcome} (first : T e [] f) (second : T f xs g) :
    T e xs g := by
  have := h.andThen first second
  rwa [List.nil_append] at this

theorem forEach (h : Traced o T) {α β : Type} (step : α → Encounter → β × Encounter) (log : β → List Outcome)
    (each : ∀ a e, T e (log (step a e).1) (step a e).2) :
    ∀ (as : List α) (e : Encounter), T e ((forEach step as e).1.flatMap log) (forEach step as e).2
  | [], e => h.nothing e
  | a :: as, e => by
    simp only [Encounter.forEach, List.flatMap_cons]
    exact h.andThen (each a e) (h.forEach step log each as _)

theorem strikeAll (h : Traced o T) (aim : Option (List String)) (half : Bool) :
    ∀ (is : List Impact) (e : Encounter), T e (strikeAll o aim half is e).1 (strikeAll o aim half is e).2
  | [], e => h.nothing e
  | i :: is, e => by
    simp only [Encounter.strikeAll]
    exact h.andThen (h.striking half _ i e) (h.strikeAll aim half is _)

end Traced

theorem inArea_state (region : Option Area) (e : Encounter) : ((inArea region).run e).2 = e := by
  simp only [inArea, Act.run]
  split <;> rfl

theorem dump_state (j : Json) (e : Encounter) : ((dump j).run e).2 = e := by
  simp only [dump, Act.run]
  split <;> rfl

/-- Finding targets uses up random choices and nothing else. -/
theorem targets_state (o : Options) (targeting : Option Targeting) (e : Encounter) :
    ∃ d, ((targets o targeting).run e).2 = { e with draws := d } := by
  cases targeting with
  | none => exact ⟨e.draws, rfl⟩
  | some t =>
    obtain ⟨choice, count, ids, area⟩ := t
    cases choice with
    | area =>
      refine ⟨e.draws, ?_⟩
      have stays := inArea_state area e
      simp only [targets, Act.run, Act.bind] at stays ⊢
      split
      · rename_i found
        rw [found] at stays
        exact stays
      · rename_i failed
        rw [failed] at stays
        exact stays
    | random => exact ⟨_, rfl⟩
    | _ => exact ⟨e.draws, rfl⟩

/-- What a save does to one of its targets: a roll, and the effects of a branch, aimed at that target. -/
def branch (o : Options) (half : Bool) (s : Save) (onSuccess onFailure : List Effect) (t : Target) (e : Encounter) :
    (SaveLine × List Outcome) × Encounter :=
  let (roll, e) := rollSave t.combatant s e.rule e
  let saved := roll.any (·.saved)
  let aim := some [t.id]
  let (outcomes, e) :=
    if !saved then resolveAll o aim half onFailure e
    else if onSuccess.isEmpty then strikeAll o aim true (reduced s onFailure) e
    else resolveAll o aim half onSuccess e
  ((SaveLine.mk t.id saved roll, outcomes), e)

theorem resolve_save (o : Options) (aim : Option (List String)) (half : Bool) (targeting : Option Targeting) (s : Save)
    (onSuccess onFailure : List Effect) (e : Encounter) :
    resolve o aim half (.save targeting s onSuccess onFailure) e =
      match (targets o (aimed aim targeting)).run e with
      | (.error mishap, e) => (.failed .save mishap.message, note (.effectRaised .save) e)
      | (.ok found, e) =>
        let (branches, e) := forEach (branch o half s onSuccess onFailure) found e
        (.save branches, e) := by
  rw [resolve]
  rfl

section Branch

variable {o : Options} {s : Save} {t : Target} {e f : Encounter} {roll : Option SaveRoll}
  (rolls : rollSave t.combatant s e.rule e = (roll, f)) (half : Bool) (onFailure : List Effect)
include rolls

theorem branch_failed (onSuccess : List Effect) (saved : roll.any (·.saved) = false) :
    branch o half s onSuccess onFailure t e =
      ((⟨t.id, false, roll⟩, (resolveAll o (some [t.id]) half onFailure f).1),
        (resolveAll o (some [t.id]) half onFailure f).2) := by
  simp [branch, rolls, saved]

theorem branch_succeeded {onSuccess : List Effect} (saved : roll.any (·.saved) = true) (given : onSuccess ≠ []) :
    branch o half s onSuccess onFailure t e =
      ((⟨t.id, true, roll⟩, (resolveAll o (some [t.id]) half onSuccess f).1),
        (resolveAll o (some [t.id]) half onSuccess f).2) := by
  simp [branch, rolls, saved, given]

theorem branch_left (saved : roll.any (·.saved) = true) :
    branch o half s [] onFailure t e =
      ((⟨t.id, true, roll⟩, (strikeAll o (some [t.id]) true (reduced s onFailure) f).1),
        (strikeAll o (some [t.id]) true (reduced s onFailure) f).2) := by
  simp [branch, rolls, saved]

end Branch

variable {o : Options} {T : Encounter → List Outcome → Encounter → Prop}

mutual

/-- **A relation that holds of every step holds of every effect**, however deep it nests others. -/
theorem resolve_traced (h : Traced o T) : ∀ (effect : Effect) (aim : Option (List String)) (half : Bool)
    (e : Encounter), T e [(resolve o aim half effect e).1] (resolve o aim half effect e).2
  | .impact targeting i, aim, half, e => by
    rw [resolve]
    exact h.striking half _ i e
  | .area _ region effects, aim, half, e => by
    rw [resolve]
    have stays := inArea_state region e
    split
    · rename_i mishap f found
      rw [found] at stays
      subst stays
      exact h.failing (h.reporting _ _)
    · rename_i found f hf
      rw [hf] at stays
      subst stays
      exact h.nesting (resolveAll_traced h effects _ half _)
  | .save targeting s onSuccess onFailure, aim, half, e => by
    rw [resolve]
    have aimed := h.aiming (Encounter.aimed aim targeting) e
    split
    · rename_i mishap f failed
      rw [failed] at aimed
      exact h.failing (h.quietly aimed (h.reporting _ _))
    · rename_i found f hf
      rw [hf] at aimed
      refine h.quietly aimed (h.branching (h.forEach _ Prod.snd (fun t e => ?_) found f))
      refine h.quietly (h.rolling t.combatant s e) ?_
      dsimp only
      split
      · exact resolveAll_traced h onFailure _ half _
      · split
        · exact h.strikeAll _ true (reduced s onFailure) _
        · exact resolveAll_traced h onSuccess _ half _

/-- A relation that holds of every step holds of effects applied in order. -/
theorem resolveAll_traced (h : Traced o T) : ∀ (effects : List Effect) (aim : Option (List String)) (half : Bool)
    (e : Encounter), T e (resolveAll o aim half effects e).1 (resolveAll o aim half effects e).2
  | [], _, _, e => by
    rw [resolveAll]
    exact h.nothing e
  | effect :: effects, aim, half, e => by
    rw [resolveAll]
    exact h.andThen (resolve_traced h effect aim half e) (resolveAll_traced h effects aim half _)

end

/-- A relation that holds of every step holds of an action. -/
theorem perform_traced (h : Traced o T) (a : Action) (e : Encounter) :
    T e (perform o a e).1.effects (perform o a e).2 := by
  have run := h.andThen (resolveAll_traced h a.effects none false e) (h.reporting (.actionApplied a.id.text a.economy
    (resolveAll o none false a.effects e).1.length (perform o a e).1.success) _)
  rwa [List.append_nil] at run

end Encounter
end Bestiary
