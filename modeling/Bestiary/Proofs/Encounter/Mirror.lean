import Bestiary.Proofs.Encounter.Trace
/-!
# Mirror — outcomes stand as their effects do

Every effect has one outcome, of its own kind.  An area that does not fail nests an outcome for each effect it nests; a
save that does not fail has a branch for each target it found, and the branch an outcome for each effect that the
verdict calls for (`Mirrors`).  What is nested decides with what is not: an action succeeds exactly when everything in
its tree does, which is when nothing in it fails by itself (`perform_mirrors`).
-/
namespace Bestiary

namespace Outcome

mutual

/-- An outcome and all that it nests, at any depth. -/
def nodes : Outcome → List Outcome
  | .area ids effects => .area ids effects :: nodesOfAll effects
  | .save branches => .save branches :: nodesOfBranches branches
  | o => [o]

/-- Outcomes and all that they nest, at any depth. -/
def nodesOfAll : List Outcome → List Outcome
  | [] => []
  | o :: os => nodes o ++ nodesOfAll os

/-- What branches nest, at any depth. -/
def nodesOfBranches : List (SaveLine × List Outcome) → List Outcome
  | [] => []
  | (_, os) :: rest => nodesOfAll os ++ nodesOfBranches rest

end

/-- **Whether an outcome is a failure by itself**, whatever it nests: the effect could not be applied, a target refused
it without a save, or nobody came. -/
def Fails : Outcome → Prop
  | .failed _ _ => True
  | .condition _ lines => ∃ l ∈ lines, l.applied = false ∧ l.saved ≠ some true
  | .movement lines => ∃ l ∈ lines, l.success = false
  | .summon requested summoned => requested ≠ 0 ∧ summoned = []
  | .damage .. | .healing _ | .area .. | .save _ | .custom _ => False

theorem self_mem_nodes (o : Outcome) : o ∈ nodes o := by
  cases o <;> simp [nodes]

theorem nodesOfAll_append (xs ys : List Outcome) : nodesOfAll (xs ++ ys) = nodesOfAll xs ++ nodesOfAll ys := by
  induction xs with
  | nil => simp [nodesOfAll]
  | cons x xs ih => rw [List.cons_append, nodesOfAll, nodesOfAll, ih, List.append_assoc]

theorem nodesOfBranches_eq : ∀ branches : List (SaveLine × List Outcome),
    nodesOfBranches branches = nodesOfAll (branches.flatMap Prod.snd)
  | [] => rfl
  | (_, os) :: rest => by rw [nodesOfBranches, nodesOfBranches_eq rest, List.flatMap_cons, nodesOfAll_append]

mutual

/-- What is nested in something nested is nested. -/
theorem nodes_subset : ∀ (o : Outcome), ∀ x ∈ nodes o, nodes x ⊆ nodes o
  | .area ids os, x, hx => by
    rw [nodes, List.mem_cons] at hx
    rcases hx with rfl | hx
    · exact fun _ h => h
    · rw [nodes]
      exact fun y hy => List.mem_cons_of_mem _ (nodesOfAll_subset os x hx hy)
  | .save branches, x, hx => by
    rw [nodes, List.mem_cons] at hx
    rcases hx with rfl | hx
    · exact fun _ h => h
    · rw [nodes]
      exact fun y hy => List.mem_cons_of_mem _ (nodesOfBranches_subset branches x hx hy)
  | .failed .., x, hx | .damage .., x, hx | .healing _, x, hx | .condition .., x, hx | .movement _, x, hx
  | .summon .., x, hx | .custom _, x, hx => by
    cases List.mem_singleton.1 hx
    exact fun _ h => h

theorem nodesOfAll_subset : ∀ (os : List Outcome), ∀ x ∈ nodesOfAll os, nodes x ⊆ nodesOfAll os
  | o :: os, x, hx => by
    rw [nodesOfAll, List.mem_append] at hx
    rw [nodesOfAll]
    rcases hx with hx | hx
    · exact fun y hy => List.mem_append_left _ (nodes_subset o x hx hy)
    · exact fun y hy => List.mem_append_right _ (nodesOfAll_subset os x hx hy)

theorem nodesOfBranches_subset : ∀ (branches : List (SaveLine × List Outcome)), ∀ x ∈ nodesOfBranches branches,
    nodes x ⊆ nodesOfBranches branches
  | (_, os) :: rest, x, hx => by
    rw [nodesOfBranches, List.mem_append] at hx
    rw [nodesOfBranches]
    rcases hx with hx | hx
    · exact fun y hy => List.mem_append_left _ (nodesOfAll_subset os x hx hy)
    · exact fun y hy => List.mem_append_right _ (nodesOfBranches_subset rest x hx hy)

end

mutual

/-- **An outcome is a success when nothing in it fails by itself.** -/
theorem success_iff : ∀ o : Outcome, o.success = true ↔ ∀ x ∈ nodes o, ¬Fails x
  | .area ids os => by
    have nested := allSucceed_iff os
    rw [success, nodes, List.forall_mem_cons, nested]
    simp [Fails]
  | .save branches => by
    have nested := branchesSucceed_iff branches
    rw [success, nodes, List.forall_mem_cons, nested]
    simp [Fails]
  | .failed .. | .damage .. | .healing _ | .custom _ => by simp [success, nodes, Fails]
  | .condition _ lines => by
    simp only [success, nodes, Fails, List.all_eq_true, List.forall_mem_singleton, not_exists, not_and]
    refine forall_congr' fun l => forall_congr' fun _ => ?_
    cases l.applied <;> simp
  | .movement lines => by simp [success, nodes, Fails]
  | .summon requested summoned => by
    simp only [success, nodes, Fails, List.forall_mem_singleton]
    cases summoned <;> simp

theorem allSucceed_iff : ∀ os : List Outcome, allSucceed os = true ↔ ∀ x ∈ nodesOfAll os, ¬Fails x
  | [] => by simp [allSucceed, nodesOfAll]
  | o :: os => by
    rw [allSucceed, nodesOfAll, List.forall_mem_append, Bool.and_eq_true, success_iff o, allSucceed_iff os]

theorem branchesSucceed_iff : ∀ branches : List (SaveLine × List Outcome),
    branchesSucceed branches = true ↔ ∀ x ∈ nodesOfBranches branches, ¬Fails x
  | [] => by simp [branchesSucceed, nodesOfBranches]
  | b :: rest => by
    rw [branchesSucceed, nodesOfBranches, List.forall_mem_append, Bool.and_eq_true, allSucceed_iff b.2,
      branchesSucceed_iff rest]

end

/-- **Outcomes succeed together exactly when each of them does, at every depth.** -/
theorem allSucceed_iff_nodes (os : List Outcome) : allSucceed os = true ↔ ∀ x ∈ nodesOfAll os, x.success = true := by
  rw [allSucceed_iff]
  constructor
  · intro h x hx
    rw [success_iff]
    exact fun y hy => h y (nodesOfAll_subset os x hx hy)
  · intro h x hx
    exact (success_iff x).1 (h x hx) x (self_mem_nodes x)

end Outcome

namespace Encounter

open Outcome (nodesOfAll Fails)

/-! ## Kinds -/

/-- Whatever a step answers is like this. -/
def Answers {α : Type} (Q : α → Prop) (d : Deed α) : Prop := ∀ e a, (d.run e).1 = .ok a → Q a

namespace Answers

variable {α β : Type} {Q : β → Prop}

theorem pure {b : β} (h : Q b) : Answers Q (Act.pure b : Deed β) := by
  rintro e b' ⟨⟩
  exact h

theorem fail (m : Mishap) : Answers Q (Act.fail m : Deed β) := by
  rintro e b ⟨⟩

theorem bind {d : Deed α} {next : α → Deed β} (h : ∀ a, Answers Q (next a)) : Answers Q (d >>= next) := by
  intro e b run
  rw [Act.run_bind] at run
  split at run
  · rename_i a f _
    exact h a f b run
  · cases run

end Answers

theorem answers_strike (o : Options) (half : Bool) (targeting : Option Targeting) (i : Impact) :
    Answers (fun outcome => outcome.kind = i.kind) (strike o half targeting i) := by
  cases i with
  | damage => exact .bind fun ts => .bind fun n => .bind fun lines => .pure rfl
  | healing => exact .bind fun ts => .bind fun n => .bind fun lines => .pure rfl
  | condition => exact .bind fun ts => .bind fun lines => .pure rfl
  | movement => exact .bind fun ts => .bind fun lines => .pure rfl
  | summon =>
    simp only [strike]
    split
    · exact .fail _
    · exact .bind fun came => .pure rfl
  | custom => exact .bind fun dumped => .pure rfl

/-- What holds of whatever a step answers, and of its failures, holds of its outcome. -/
theorem answers_guarded {kind : EffectKind} {d : Deed Outcome} {Q : Outcome → Prop} (h : Answers Q d)
    (failed : ∀ message, Q (.failed kind message)) (e : Encounter) : Q (guarded kind d e).1 := by
  unfold guarded
  split
  · rename_i outcome f run
    exact h e outcome (by rw [run])
  · exact failed _
  · exact failed _

/-- The outcome of an impact is of its kind, whether it failed or not. -/
theorem kind_guarded {kind : EffectKind} {d : Deed Outcome} (h : Answers (fun outcome => outcome.kind = kind) d)
    (e : Encounter) : (guarded kind d e).1.kind = kind :=
  answers_guarded h (fun _ => rfl) e

theorem kind_strikeAll (o : Options) (aim : Option (List String)) (half : Bool) : ∀ (is : List Impact) (e : Encounter),
    (strikeAll o aim half is e).1.map Outcome.kind = is.map Impact.kind
  | [], _ => rfl
  | i :: is, e => by
    simp only [strikeAll, List.map_cons]
    rw [kind_guarded (answers_strike o half _ i), kind_strikeAll o aim half is]

/-! ## Trees -/

mutual

/-- **An outcome that stands as its effect does**, when the effect is applied in an encounter, aimed at these ids or as
it says itself: a bare failure of its kind; or an outcome of its kind; below an area, outcomes of the effects it nests,
aimed at those who are in it; below a save, a branch for each target it found. -/
inductive Mirrors (o : Options) : Option (List String) → Bool → Effect → Encounter → Outcome → Prop
  | failed {aim half effect e error} : Mirrors o aim half effect e (.failed effect.kind error)
  | impact {aim half targeting i e outcome} (kind : outcome.kind = i.kind) :
      Mirrors o aim half (.impact targeting i) e outcome
  | area {aim half targeting region effects e found outcomes} (within : ((inArea region).run e).1 = .ok found)
      (nested : AllMirror o (some ((found.getD e.seats).map Target.id)) half effects e outcomes) :
      Mirrors o aim half (.area targeting region effects) e (.area ((found.getD e.seats).map Target.id) outcomes)
  | save {aim half targeting s onSuccess onFailure e ts f branches}
      (found : (targets o (aimed aim targeting)).run e = (.ok ts, f))
      (nested : BranchesMirror o half s onSuccess onFailure ts f branches) :
      Mirrors o aim half (.save targeting s onSuccess onFailure) e (.save branches)

/-- Outcomes that stand as their effects do, one for each, the effects being applied in order. -/
inductive AllMirror (o : Options) : Option (List String) → Bool → List Effect → Encounter → List Outcome → Prop
  | done {aim half e} : AllMirror o aim half [] e []
  | next {aim half effect effects e outcome outcomes} (first : Mirrors o aim half effect e outcome)
      (rest : AllMirror o aim half effects (resolve o aim half effect e).2 outcomes) :
      AllMirror o aim half (effect :: effects) e (outcome :: outcomes)

/-- Branches that stand as the effects of a save do, one for each target, in order: the failure branch for who failed,
the success branch for who saved, and what is left of the failure branch for who saved where there is no success
branch. -/
inductive BranchesMirror (o : Options) : Bool → Save → List Effect → List Effect →
    List Target → Encounter → List (SaveLine × List Outcome) → Prop
  | done {half s onSuccess onFailure e} : BranchesMirror o half s onSuccess onFailure [] e []
  | failed {half s onSuccess onFailure t ts e roll f outcomes branches}
      (rolls : rollSave t.combatant s e.rule e = (roll, f)) (saved : roll.any (·.saved) = false)
      (nested : AllMirror o (some [t.id]) half onFailure f outcomes)
      (rest : BranchesMirror o half s onSuccess onFailure ts (branch o half s onSuccess onFailure t e).2 branches) :
      BranchesMirror o half s onSuccess onFailure (t :: ts) e ((⟨t.id, false, roll⟩, outcomes) :: branches)
  | succeeded {half s onSuccess onFailure t ts e roll f outcomes branches}
      (rolls : rollSave t.combatant s e.rule e = (roll, f)) (saved : roll.any (·.saved) = true)
      (given : onSuccess ≠ []) (nested : AllMirror o (some [t.id]) half onSuccess f outcomes)
      (rest : BranchesMirror o half s onSuccess onFailure ts (branch o half s onSuccess onFailure t e).2 branches) :
      BranchesMirror o half s onSuccess onFailure (t :: ts) e ((⟨t.id, true, roll⟩, outcomes) :: branches)
  | left {half s onFailure t ts e roll f outcomes branches}
      (rolls : rollSave t.combatant s e.rule e = (roll, f)) (saved : roll.any (·.saved) = true)
      (nested : outcomes.map Outcome.kind = (reduced s onFailure).map Impact.kind)
      (rest : BranchesMirror o half s [] onFailure ts (branch o half s [] onFailure t e).2 branches) :
      BranchesMirror o half s [] onFailure (t :: ts) e ((⟨t.id, true, roll⟩, outcomes) :: branches)

end

theorem Mirrors.kind {o : Options} {aim : Option (List String)} {half : Bool} {effect : Effect} {e : Encounter}
    {outcome : Outcome} (h : Mirrors o aim half effect e outcome) : outcome.kind = effect.kind := by
  cases h with
  | failed => rfl
  | impact kind => exact kind
  | area _ _ => rfl
  | save _ _ => rfl

theorem AllMirror.kinds {o : Options} {aim : Option (List String)} {half : Bool} : ∀ {effects : List Effect}
    {e : Encounter} {outcomes : List Outcome}, AllMirror o aim half effects e outcomes →
      outcomes.map Outcome.kind = effects.map Effect.kind
  | _, _, _, .done => rfl
  | _, _, _, .next first rest => by rw [List.map_cons, List.map_cons, first.kind, rest.kinds]

theorem branchesMirror_forEach {o : Options} {half : Bool} (s : Save) {onSuccess onFailure : List Effect}
    (success : ∀ aim e, AllMirror o aim half onSuccess e (resolveAll o aim half onSuccess e).1)
    (failure : ∀ aim e, AllMirror o aim half onFailure e (resolveAll o aim half onFailure e).1) :
    ∀ (ts : List Target) (e : Encounter),
      BranchesMirror o half s onSuccess onFailure ts e (forEach (branch o half s onSuccess onFailure) ts e).1
  | [], _ => .done
  | t :: ts, e => by
    have rest := branchesMirror_forEach s success failure ts (branch o half s onSuccess onFailure t e).2
    obtain ⟨roll, f, rolls⟩ : ∃ roll f, rollSave t.combatant s e.rule e = (roll, f) := ⟨_, _, rfl⟩
    simp only [forEach]
    cases saved : roll.any (·.saved) with
    | false =>
      have here := branch_failed (o := o) rolls half onFailure onSuccess saved
      rw [congrArg Prod.fst here]
      exact .failed rolls saved (failure _ f) rest
    | true =>
      by_cases given : onSuccess = []
      · subst given
        have here := branch_left (o := o) rolls half onFailure saved
        rw [congrArg Prod.fst here]
        exact .left rolls saved (kind_strikeAll o _ true _ f) rest
      · have here := branch_succeeded (o := o) rolls half onFailure saved given
        rw [congrArg Prod.fst here]
        exact .succeeded rolls saved given (success _ f) rest

mutual

/-- **Every outcome stands as its effect does**, however deep effects nest others. -/
theorem resolve_mirrors (o : Options) : ∀ (effect : Effect) (aim : Option (List String)) (half : Bool) (e : Encounter),
    Mirrors o aim half effect e (resolve o aim half effect e).1
  | .impact targeting i, aim, half, e => by
    rw [resolve]
    exact .impact (kind_guarded (answers_strike o half _ i) e)
  | .area targeting region effects, aim, half, e => by
    rw [resolve]
    have stays := inArea_state region e
    split
    · exact .failed
    · rename_i found f within
      rw [within] at stays
      subst stays
      exact .area (by rw [within]) (resolveAll_mirrors o effects _ half f)
  | .save targeting s onSuccess onFailure, aim, half, e => by
    rw [resolve_save]
    split
    · exact .failed
    · rename_i found
      exact .save found (branchesMirror_forEach s (fun aim e => resolveAll_mirrors o onSuccess aim half e)
        (fun aim e => resolveAll_mirrors o onFailure aim half e) _ _)

theorem resolveAll_mirrors (o : Options) : ∀ (effects : List Effect) (aim : Option (List String)) (half : Bool)
    (e : Encounter), AllMirror o aim half effects e (resolveAll o aim half effects e).1
  | [], _, _, _ => by
    rw [resolveAll]
    exact .done
  | effect :: effects, aim, half, e => by
    rw [resolveAll]
    exact .next (resolve_mirrors o effect aim half e) (resolveAll_mirrors o effects aim half _)

end

/-- **A report stands as its action does, and succeeds as a whole.**  It has one outcome for each effect, in order and of
its kind, and below each outcome the tree of the effect again.  It is a success exactly when every outcome at every
depth is one, and that is when none of them fails by itself. -/
theorem perform_mirrors (o : Options) (a : Action) (e : Encounter) :
    (perform o a e).1.effects.map Outcome.kind = a.effects.map Effect.kind ∧
    AllMirror o none false a.effects e (perform o a e).1.effects ∧
    ((perform o a e).1.success = true ↔ ∀ x ∈ nodesOfAll (perform o a e).1.effects, x.success = true) ∧
    ((perform o a e).1.success = true ↔ ∀ x ∈ nodesOfAll (perform o a e).1.effects, ¬Fails x) := by
  have tree : AllMirror o none false a.effects e (perform o a e).1.effects := resolveAll_mirrors o a.effects none false e
  exact ⟨tree.kinds, tree, Outcome.allSucceed_iff_nodes _, Outcome.allSucceed_iff _⟩

end Encounter
end Bestiary
