import Bestiary.Proofs.Encounter.Trace
/-!
# Halving — what damage is due

Damage is halved for a save of its own, or because it is what a made save has left of its failure branch; nothing else
halves it, and nothing halves it twice (`due`).  The rules for effects say so without a flag that is handed down
(`Applied`): it does not matter how deep an effect stands, but only which save is right above it.  An action does what
the rules say and nothing else (`perform_iff_performed`).
-/
namespace Bestiary
namespace Encounter

/-- **The damage that is due to a target of an amount.**  Nothing, if it made a save of the effect's own that negates;
half, if that save halves or the effect is what a made save has left of its failure branch; else all of it. -/
def due (n : Int) (own : Option Save) (saved : Option Bool) (left : Bool) : Int :=
  if saved = some true ∧ ∃ s ∈ own, s.negate then 0
  else if (saved = some true ∧ ∃ s ∈ own, s.half) ∨ left then n / 2
  else n

/-- Two reasons to halve an amount halve it once. -/
example : due 20 (some { (default : Save) with half := true }) (some true) true = 10 := by decide

/-- One target of a damage effect: rolls the effect's own save, if there is one, and is dealt what is due. -/
def take (n : Int) (kind : Option String) (own : Option Save) (left : Bool) (t : Target) : Deed DamageLine := do
  let saved ← Act.ofStep (saveAgainst t own)
  damage t (due n own saved left) kind saved

/-- What an impact does.  The amount of a damage effect is determined once, for all its targets. -/
def impart (o : Options) (left : Bool) (targeting : Option Targeting) : Impact → Deed Outcome
  | .damage quantity kind own => do
    let ts ← targets o targeting
    let n ← amount quantity
    let lines ← Act.each (take n kind own left) ts
    return .damage kind lines
  | i => strike o false targeting i

/-- Whether a made save without a success branch leaves half the damage of its failure branch. -/
def leavesHalf (s : Save) : Bool := s.half && !s.negate

mutual

/-- **What an effect does**, aimed at these ids or as it says itself. -/
inductive Applied (o : Options) : Option (List String) → Effect → Encounter → Outcome → Encounter → Prop
  | impact {aim targeting i e outcome f}
      (does : guarded i.kind (impart o false (aimed aim targeting) i) e = (outcome, f)) :
      Applied o aim (.impact targeting i) e outcome f
  | noArea {aim targeting region effects e mishap f} (lost : (inArea region).run e = (.error mishap, f)) :
      Applied o aim (.area targeting region effects) e (.failed .area mishap.message) (note (.effectRaised .area) f)
  | area {aim targeting region effects e found f outcomes g} (within : (inArea region).run e = (.ok found, f))
      (nested : AllApplied o (some ((found.getD f.seats).map Target.id)) effects f outcomes g) :
      Applied o aim (.area targeting region effects) e (.area ((found.getD f.seats).map Target.id) outcomes) g
  | noTargets {aim targeting s onSuccess onFailure e mishap f}
      (lost : (targets o (aimed aim targeting)).run e = (.error mishap, f)) :
      Applied o aim (.save targeting s onSuccess onFailure) e (.failed .save mishap.message)
        (note (.effectRaised .save) f)
  | save {aim targeting s onSuccess onFailure e ts f branches g}
      (found : (targets o (aimed aim targeting)).run e = (.ok ts, f))
      (nested : Branched o s onSuccess onFailure ts f branches g) :
      Applied o aim (.save targeting s onSuccess onFailure) e (.save branches) g

/-- What effects do, one after the other. -/
inductive AllApplied (o : Options) :
    Option (List String) → List Effect → Encounter → List Outcome → Encounter → Prop
  | done {aim e} : AllApplied o aim [] e [] e
  | next {aim effect effects e outcome f outcomes g} (first : Applied o aim effect e outcome f)
      (rest : AllApplied o aim effects f outcomes g) : AllApplied o aim (effect :: effects) e (outcome :: outcomes) g

/-- What a save does, one target after the other.  Only a made save without a success branch has something left of its
failure branch, and only what is left is halved for it. -/
inductive Branched (o : Options) : Save → List Effect → List Effect →
    List Target → Encounter → List (SaveLine × List Outcome) → Encounter → Prop
  | done {s onSuccess onFailure e} : Branched o s onSuccess onFailure [] e [] e
  | failed {s onSuccess onFailure t ts e roll f outcomes g branches h}
      (rolls : rollSave t.combatant s e.rule e = (roll, f)) (saved : roll.any (·.saved) = false)
      (branch : AllApplied o (some [t.id]) onFailure f outcomes g)
      (rest : Branched o s onSuccess onFailure ts g branches h) :
      Branched o s onSuccess onFailure (t :: ts) e ((⟨t.id, false, roll⟩, outcomes) :: branches) h
  | succeeded {s onSuccess onFailure t ts e roll f outcomes g branches h}
      (rolls : rollSave t.combatant s e.rule e = (roll, f)) (saved : roll.any (·.saved) = true)
      (given : onSuccess ≠ []) (branch : AllApplied o (some [t.id]) onSuccess f outcomes g)
      (rest : Branched o s onSuccess onFailure ts g branches h) :
      Branched o s onSuccess onFailure (t :: ts) e ((⟨t.id, true, roll⟩, outcomes) :: branches) h
  | left {s onFailure t ts e roll f outcomes g branches h}
      (rolls : rollSave t.combatant s e.rule e = (roll, f)) (saved : roll.any (·.saved) = true)
      (branch : forEach (fun i => guarded i.kind (impart o (leavesHalf s) (some (.specific [t.id])) i))
        (reduced s onFailure) f = (outcomes, g))
      (rest : Branched o s [] onFailure ts g branches h) :
      Branched o s [] onFailure (t :: ts) e ((⟨t.id, true, roll⟩, outcomes) :: branches) h

end

/-- **What an action does**: what its effects do, one after the other. -/
def Performed (o : Options) (a : Action) (e : Encounter) (report : Report) (f : Encounter) : Prop :=
  ∃ outcomes g, AllApplied o none a.effects e outcomes g ∧ report = ⟨a.id.text, outcomes⟩ ∧
    f = note (.actionApplied a.id.text a.economy outcomes.length report.success) g

/-! ## Impacts -/

variable {o : Options}

theorem dealt_eq_due (n : Int) (left : Bool) (saved : Option Bool) (own : Option Save) :
    dealt n left saved own = due n own saved left := by
  cases own with
  | none => simp [dealt, due]
  | some s =>
    cases saved with
    | none => simp [dealt, due]
    | some made => cases made <;> simp [dealt, due, or_comm]

theorem strikeDamage_eq_take (n : Int) (kind : Option String) (own : Option Save) (left : Bool) :
    strikeDamage n kind own left = take n kind own left := by
  funext t
  simp only [strikeDamage, take, dealt_eq_due]

theorem strike_eq_impart (o : Options) (half : Bool) (targeting : Option Targeting) (i : Impact) :
    strike o half targeting i = impart o half targeting i := by
  cases i with
  | damage quantity kind own => simp only [strike, impart, strikeDamage_eq_take]
  | _ => rfl

/-- What a save leaves of damage is half of it. -/
theorem leavesHalf_of_mem {s : Save} {onFailure : List Effect} {quantity : Quantity} {kind : Option String}
    {own : Option Save} (kept : .damage quantity kind own ∈ reduced s onFailure) : leavesHalf s = true := by
  unfold reduced at kept
  split at kept
  · cases kept
  · rename_i stands
    obtain ⟨effect, -, shown⟩ := List.mem_filterMap.1 kept
    unfold reduce at shown
    split at shown
    · split at shown
      · rename_i halves
        simp [leavesHalf, halves, stands]
      · cases shown
    · split at shown <;> cases shown
    · split at shown <;> cases shown
    · cases shown

theorem strike_reduced (o : Options) {s : Save} {onFailure : List Effect} {i : Impact} (kept : i ∈ reduced s onFailure)
    (targeting : Option Targeting) : strike o true targeting i = impart o (leavesHalf s) targeting i := by
  rw [strike_eq_impart]
  -- The flag is set for all that is left, but only damage is halved, and damage is left only by a save that halves.
  cases i with
  | damage quantity kind own => rw [leavesHalf_of_mem kept]
  | _ => rfl

theorem strikeAll_eq_forEach {half left : Bool} (ids : List String) : ∀ is : List Impact,
    (∀ i ∈ is, ∀ targeting, strike o half targeting i = impart o left targeting i) → ∀ e,
      strikeAll o (some ids) half is e =
        forEach (fun i => guarded i.kind (impart o left (some (.specific ids)) i)) is e
  | [], _, _ => rfl
  | i :: is, same, e => by
    simp only [strikeAll, forEach, aimed]
    rw [same i List.mem_cons_self, strikeAll_eq_forEach ids is fun x hx => same x (List.mem_cons_of_mem _ hx)]

/-- What is left of a failure branch is applied as the rules say. -/
theorem strikeAll_reduced (s : Save) (onFailure : List Effect) (ids : List String) (e : Encounter) :
    strikeAll o (some ids) true (reduced s onFailure) e =
      forEach (fun i => guarded i.kind (impart o (leavesHalf s) (some (.specific ids)) i)) (reduced s onFailure) e :=
  strikeAll_eq_forEach ids _ (fun _ kept => strike_reduced o kept) e

/-! ## What is done follows the rules -/

theorem branched_forEach (s : Save) {onSuccess onFailure : List Effect}
    (success : ∀ aim e, AllApplied o aim onSuccess e (resolveAll o aim false onSuccess e).1
      (resolveAll o aim false onSuccess e).2)
    (failure : ∀ aim e, AllApplied o aim onFailure e (resolveAll o aim false onFailure e).1
      (resolveAll o aim false onFailure e).2) : ∀ (ts : List Target) (e : Encounter),
    Branched o s onSuccess onFailure ts e (forEach (branch o false s onSuccess onFailure) ts e).1
      (forEach (branch o false s onSuccess onFailure) ts e).2
  | [], e => .done
  | t :: ts, e => by
    have rest := branched_forEach s success failure ts (branch o false s onSuccess onFailure t e).2
    obtain ⟨roll, f, rolls⟩ : ∃ roll f, rollSave t.combatant s e.rule e = (roll, f) := ⟨_, _, rfl⟩
    simp only [forEach]
    cases saved : roll.any (·.saved) with
    | false =>
      rw [branch_failed rolls false onFailure onSuccess saved] at rest ⊢
      exact .failed rolls saved (failure _ f) rest
    | true =>
      by_cases given : onSuccess = []
      · subst given
        rw [branch_left rolls false onFailure saved] at rest ⊢
        exact .left rolls saved (strikeAll_reduced s onFailure [t.id] f).symm rest
      · rw [branch_succeeded rolls false onFailure saved given] at rest ⊢
        exact .succeeded rolls saved given (success _ f) rest

mutual

theorem applied_resolve : ∀ (effect : Effect) (aim : Option (List String)) (e : Encounter),
    Applied o aim effect e (resolve o aim false effect e).1 (resolve o aim false effect e).2
  | .impact targeting i, aim, e => by
    rw [resolve, strike_eq_impart]
    exact .impact rfl
  | .area _ _ effects, aim, e => by
    rw [resolve]
    split
    · rename_i lost
      exact .noArea lost
    · rename_i within
      exact .area within (allApplied_resolveAll effects _ _)
  | .save targeting s onSuccess onFailure, aim, e => by
    rw [resolve_save]
    split
    · rename_i lost
      exact .noTargets lost
    · rename_i found
      exact .save found (branched_forEach s (allApplied_resolveAll onSuccess) (allApplied_resolveAll onFailure) _ _)

theorem allApplied_resolveAll : ∀ (effects : List Effect) (aim : Option (List String)) (e : Encounter),
    AllApplied o aim effects e (resolveAll o aim false effects e).1 (resolveAll o aim false effects e).2
  | [], _, e => by
    rw [resolveAll]
    exact .done
  | effect :: effects, aim, e => by
    rw [resolveAll]
    exact .next (applied_resolve effect aim e) (allApplied_resolveAll effects aim _)

end

/-! ## Nothing else follows the rules -/

mutual

theorem Applied.resolved : ∀ {aim : Option (List String)} {effect : Effect} {e f : Encounter} {outcome : Outcome},
    Applied o aim effect e outcome f → resolve o aim false effect e = (outcome, f)
  | _, _, _, _, _, .impact does => by rw [resolve, strike_eq_impart, does]
  | _, _, _, _, _, .noArea lost => by rw [resolve, lost]
  | _, _, _, _, _, .area within nested => by
    rw [resolve, within]
    dsimp only
    rw [nested.resolved]
  | _, _, _, _, _, .noTargets lost => by rw [resolve_save, lost]
  | _, _, _, _, _, .save found nested => by
    rw [resolve_save, found]
    dsimp only
    rw [nested.resolved]

theorem AllApplied.resolved : ∀ {aim : Option (List String)} {effects : List Effect} {e f : Encounter}
    {outcomes : List Outcome}, AllApplied o aim effects e outcomes f → resolveAll o aim false effects e = (outcomes, f)
  | _, _, _, _, _, .done => by rw [resolveAll]
  | _, _, _, _, _, .next first rest => by
    rw [resolveAll, first.resolved]
    dsimp only
    rw [rest.resolved]

theorem Branched.resolved : ∀ {s : Save} {onSuccess onFailure : List Effect} {ts : List Target} {e f : Encounter}
    {branches : List (SaveLine × List Outcome)}, Branched o s onSuccess onFailure ts e branches f →
      forEach (branch o false s onSuccess onFailure) ts e = (branches, f)
  | _, _, _, _, _, _, _, .done => rfl
  | _, onSuccess, onFailure, _, _, _, _, .failed rolls saved nested rest => by
    rw [forEach, branch_failed rolls false onFailure onSuccess saved, nested.resolved]
    dsimp only
    rw [rest.resolved]
  | _, _, onFailure, _, _, _, _, .succeeded rolls saved given nested rest => by
    rw [forEach, branch_succeeded rolls false onFailure saved given, nested.resolved]
    dsimp only
    rw [rest.resolved]
  | s, _, onFailure, _, _, _, _, .left rolls saved nested rest => by
    rw [forEach, branch_left rolls false onFailure saved, strikeAll_reduced, nested]
    dsimp only
    rw [rest.resolved]

end

/-- **An action does what the rules say and nothing else.** -/
theorem perform_iff_performed (o : Options) (a : Action) (e f : Encounter) (report : Report) :
    perform o a e = (report, f) ↔ Performed o a e report f := by
  constructor
  · intro run
    cases run
    exact ⟨_, _, allApplied_resolveAll a.effects none e, rfl, rfl⟩
  · rintro ⟨outcomes, g, applied, rfl, rfl⟩
    rw [perform, applied.resolved]

end Encounter
end Bestiary
