import Bestiary.Proofs.Encounter.Trace
/-!
# Hushed — nothing that happens depends on what was reported

Encounters are alike if they differ in their journals at most.  Every step of a resolution is deaf: on encounters that
are alike it answers alike and leaves them alike, and so is every effect tree (`deaf_resolve`).
-/
namespace Bestiary

namespace Outcome

/-- An outcome with a change to what an area nests. -/
def underArea (change : List Outcome → List Outcome) : Outcome → Outcome
  | .area ids os => .area ids (change os)
  | o => o

/-- An outcome with a change to what a save nests for those who made it and one for those who did not. -/
def underSave (made missed : List Outcome → List Outcome) : Outcome → Outcome
  | .save branches => .save (branches.map fun b => (b.1, if b.1.saved then made b.2 else missed b.2))
  | o => o

theorem underArea_id (o : Outcome) : underArea id o = o := by
  cases o <;> rfl

theorem underSave_id (o : Outcome) : underSave id id o = o := by
  cases o <;> simp [underSave]

end Outcome

namespace Encounter

/-- The encounter without what was reported and announced. -/
def hushed (e : Encounter) : Encounter := { e with journal := [] }

/-- **Encounters that differ in their journals at most.** -/
def Alike (e f : Encounter) : Prop := hushed e = hushed f

namespace Alike

theorem refl (e : Encounter) : Alike e e := rfl

theorem journal (e : Encounter) (j : List Emission) : Alike e { e with journal := j } := rfl

theorem symm {e f : Encounter} (h : Alike e f) : Alike f e := Eq.symm h

theorem trans {e f g : Encounter} (h : Alike e f) (k : Alike f g) : Alike e g := Eq.trans h k

theorem exists_journal {e f : Encounter} (h : Alike e f) : ∃ j, f = { e with journal := j } := by
  obtain ⟨roster, round, onTurn, reactionUsed, bonusUsed, trigger, rule, clock, cup, draws, world, summoned, rolled,
    journal⟩ := f
  cases e
  unfold Alike hushed at h
  injection h with h₁ h₂ h₃ h₄ h₅ h₆ h₇ h₈ h₉ h₁₀ h₁₁ h₁₂ h₁₃
  subst h₁ h₂ h₃ h₄ h₅ h₆ h₇ h₈ h₉ h₁₀ h₁₁ h₁₂ h₁₃
  exact ⟨journal, rfl⟩

theorem note_left (n : Notice) {e f : Encounter} (h : Alike e f) : Alike (note n e) f := h

theorem note_right (n : Notice) {e f : Encounter} (h : Alike e f) : Alike e (note n f) := h

theorem notes (m n : Notice) {e f : Encounter} (h : Alike e f) : Alike (note m e) (note n f) := h

theorem alter {e f : Encounter} (h : Alike e f) (t : Target) (change : Combatant → Combatant) :
    Alike (e.alter t change) (f.alter t change) := by
  obtain ⟨j, rfl⟩ := h.exists_journal
  unfold Encounter.alter
  cases t.seat <;> rfl

theorem roster {e f : Encounter} (h : Alike e f) : f.roster = e.roster := by
  obtain ⟨j, rfl⟩ := h.exists_journal
  rfl

theorem cup {e f : Encounter} (h : Alike e f) : f.cup = e.cup := by
  obtain ⟨j, rfl⟩ := h.exists_journal
  rfl

theorem draws {e f : Encounter} (h : Alike e f) : f.draws = e.draws := by
  obtain ⟨j, rfl⟩ := h.exists_journal
  rfl

theorem rule {e f : Encounter} (h : Alike e f) : f.rule = e.rule := by
  obtain ⟨j, rfl⟩ := h.exists_journal
  rfl

end Alike

/-- **A step that does not hear what was reported.** -/
def Deaf {β : Type} (step : Encounter → β × Encounter) : Prop :=
  ∀ e f, Alike e f → (step f).1 = (step e).1 ∧ Alike (step e).2 (step f).2

/-- **A second step that goes as a first one does**: on encounters that are alike it answers what the first one answers,
with a change, and leaves encounters that are alike. -/
def Follows {β : Type} (change : β → β) (first second : Encounter → β × Encounter) : Prop :=
  ∀ e f, Alike e f → (second f).1 = change (first e).1 ∧ Alike (first e).2 (second f).2

theorem Deaf.follows {β : Type} {step : Encounter → β × Encounter} (h : Deaf step) : Follows id step step := h

theorem Follows.deaf {β : Type} {step : Encounter → β × Encounter} {change : β → β} (h : Follows change step step)
    (same : ∀ b, change b = b) : Deaf step := by
  intro e f alike
  obtain ⟨answer, alike'⟩ := h e f alike
  rw [same] at answer
  exact ⟨answer, alike'⟩

theorem Follows.forEach {α β : Type} {change : β → β} {first second : α → Encounter → β × Encounter}
    (h : ∀ a, Follows change (first a) (second a)) : ∀ as : List α,
    Follows (List.map change) (forEach first as) (forEach second as)
  | [] => fun _ _ alike => ⟨rfl, alike⟩
  | a :: as => by
    intro e f alike
    obtain ⟨here, alike'⟩ := h a _ _ alike
    obtain ⟨rest, alike''⟩ := Follows.forEach h as _ _ alike'
    simp only [Encounter.forEach, List.map_cons]
    exact ⟨by rw [here, rest], alike''⟩

namespace Deaf

variable {α β : Type}

theorem of_journal {step : Encounter → β × Encounter} (h : ∀ e j, (step { e with journal := j }).1 = (step e).1 ∧
    Alike (step e).2 (step { e with journal := j }).2) : Deaf step := by
  intro e f alike
  obtain ⟨j, rfl⟩ := alike.exists_journal
  exact h e j

theorem pure (a : α) : Deaf (Act.pure a : Deed α) := fun _ _ alike => ⟨rfl, alike⟩

theorem fail (m : Mishap) : Deaf (Act.fail m : Deed α) := fun _ _ alike => ⟨rfl, alike⟩

theorem bind {d : Deed α} {next : α → Deed β} (first : Deaf d) (second : ∀ a, Deaf (next a)) :
    Deaf (Act.bind d next) := by
  intro e f alike
  obtain ⟨same, alike'⟩ := first _ _ alike
  rcases run : d e with ⟨m | a, e'⟩ <;> rcases run' : d f with ⟨m' | a', f'⟩ <;>
    rw [run, run'] at same alike' <;> cases same <;> simp only [Act.bind, run, run']
  · exact ⟨trivial, alike'⟩
  · exact second a _ _ alike'

theorem each {d : α → Deed β} (step : ∀ a, Deaf (d a)) : ∀ as : List α, Deaf (Act.each d as)
  | [] => pure []
  | a :: as => bind (step a) fun _ => bind (each step as) fun _ => pure _

theorem ofStep {step : Encounter → α × Encounter} (h : Deaf step) : Deaf (Act.ofStep step : Deed α) := by
  intro e f alike
  obtain ⟨same, alike'⟩ := h _ _ alike
  exact ⟨congrArg Except.ok same, alike'⟩

theorem guarded (kind : EffectKind) {d : Deed Outcome} (h : Deaf d) : Deaf (guarded kind d) := by
  intro e f alike
  obtain ⟨same, alike'⟩ := h _ _ alike
  unfold Encounter.guarded Act.run
  rcases run : d e with ⟨m | a, e'⟩ <;> rcases run' : d f with ⟨m' | a', f'⟩ <;>
    rw [run, run'] at same alike' <;> cases same
  · cases m <;> exact ⟨rfl, alike'.notes _ _⟩
  · exact ⟨rfl, alike'⟩

end Deaf

/-! ## Dice -/

theorem deaf_rollDie (sides : Nat) : Deaf (rollDie sides) := by
  refine .of_journal fun e j => ?_
  unfold rollDie
  dsimp only
  split
  · exact ⟨rfl, .refl _⟩
  · exact ⟨rfl, .refl _⟩

theorem deaf_rollDice (sides : Nat) : ∀ n : Nat, Deaf (rollDice sides n)
  | 0 => fun _ _ alike => ⟨rfl, alike⟩
  | n + 1 => by
    intro e f alike
    obtain ⟨first, alike'⟩ := deaf_rollDie sides _ _ alike
    obtain ⟨rest, alike''⟩ := deaf_rollDice sides n _ _ alike'
    simp only [rollDice]
    exact ⟨by rw [first, rest], alike''⟩

theorem deaf_rollSave (c : Combatant) (s : Save) : Deaf fun e => rollSave c s e.rule e := by
  intro e f alike
  dsimp only
  rw [alike.rule]
  unfold rollSave
  split
  · rename_i ability dc _ _
    obtain ⟨same, alike'⟩ := deaf_rollDice 20 (e.rule.dice s.advantage s.disadvantage) _ _ alike
    dsimp only
    rw [same]
    exact ⟨rfl, alike'.notes _ _⟩
  · exact ⟨rfl, alike.notes _ _⟩

theorem deaf_saveAgainst (t : Target) (save : Option Save) : Deaf (saveAgainst t save) := by
  cases save with
  | none => exact fun _ _ alike => ⟨rfl, alike⟩
  | some s =>
    intro e f alike
    obtain ⟨same, alike'⟩ := deaf_rollSave t.combatant s _ _ alike
    simp only [saveAgainst, checkSave]
    exact ⟨by rw [same], alike'⟩

theorem deaf_amount (q : Quantity) : Deaf (amount q) := by
  cases q with
  | fixed n => exact .pure n
  | rolled text =>
    refine .of_journal fun e j => ?_
    simp only [amount, rollAmount]
    split
    · exact ⟨rfl, .refl _⟩
    · split
      · exact ⟨rfl, .refl _⟩
      · exact ⟨rfl, .refl _⟩
      · exact ⟨rfl, .refl _⟩
      · exact ⟨rfl, .refl _⟩

/-! ## Steps -/

theorem deaf_inArea (region : Option Area) : Deaf (inArea region) := by
  refine .of_journal fun e j => ?_
  unfold inArea
  split
  · exact ⟨rfl, .refl _⟩
  · exact ⟨rfl, .refl _⟩

theorem deaf_targets (o : Options) (targeting : Option Targeting) : Deaf (targets o targeting) := by
  cases targeting with
  | none => exact .pure _
  | some t =>
    obtain ⟨choice, count, ids, area⟩ := t
    cases choice with
    | area => exact .bind (deaf_inArea area) fun found => .pure _
    | _ => exact .of_journal fun e j => ⟨rfl, .refl _⟩

theorem deaf_damage (t : Target) (n : Int) (kind : Option String) (saved : Option Bool) :
    Deaf (damage t n kind saved) := by
  refine .of_journal fun e j => ?_
  unfold damage
  dsimp only
  split
  · exact ⟨rfl, .refl _⟩
  · exact ⟨rfl, Alike.notes _ _ (Alike.alter (.journal e j) t _)⟩

theorem deaf_heal (t : Target) (n : Int) : Deaf (heal t n) := by
  refine .of_journal fun e j => ?_
  unfold heal
  dsimp only
  split
  · exact ⟨rfl, .refl _⟩
  · exact ⟨rfl, Alike.notes _ _ (Alike.alter (.journal e j) t _)⟩

theorem deaf_setCondition (t : Target) (condition : AppliedCondition) : Deaf (setCondition t condition) := by
  refine .of_journal fun e j => ?_
  unfold setCondition
  dsimp only
  split
  · exact ⟨rfl, .refl _⟩
  · split
    · exact ⟨rfl, .refl _⟩
    · exact ⟨rfl, Alike.notes _ _ (Alike.alter (.journal e j) t _)⟩

theorem deaf_move (t : Target) (distance : Nat) (direction : Option String) : Deaf (move t distance direction) := by
  refine .of_journal fun e j => ?_
  unfold move
  dsimp only
  split
  · exact ⟨rfl, .refl _⟩
  · split
    · exact ⟨rfl, .refl _⟩
    · exact ⟨rfl, .refl _⟩

theorem deaf_summon (creature position : Json) : Deaf (summon creature position) := by
  refine .of_journal fun e j => ?_
  unfold summon
  dsimp only
  split
  · exact ⟨rfl, .refl _⟩
  · split
    · exact ⟨rfl, .refl _⟩
    · split
      · exact ⟨rfl, .refl _⟩
      · exact ⟨rfl, .refl _⟩

theorem deaf_dump (j : Json) : Deaf (dump j) := by
  refine .of_journal fun e _ => ?_
  unfold dump
  dsimp only
  split
  · exact ⟨rfl, .refl _⟩
  · exact ⟨rfl, .refl _⟩

/-! ## Effects -/

theorem deaf_strikeDamage (n : Int) (kind : Option String) (save : Option Save) (half : Bool) (t : Target) :
    Deaf (strikeDamage n kind save half t) :=
  .bind (.ofStep (deaf_saveAgainst t save)) fun saved => deaf_damage t _ kind saved

theorem deaf_strikeCondition (condition : Label) (duration : Option Nat) (save : Option Save) (t : Target) :
    Deaf (strikeCondition condition duration save t) := by
  refine .bind (.ofStep (deaf_saveAgainst t save)) fun saved => ?_
  dsimp only
  split
  · exact .pure _
  · exact .bind (deaf_setCondition t _) fun _ => .pure _

theorem deaf_strikeMovement (distance : Nat) (direction : Option String) (save : Option Save) (t : Target) :
    Deaf (strikeMovement distance direction save t) := by
  refine .bind (.ofStep (deaf_saveAgainst t save)) fun saved => ?_
  dsimp only
  split
  · exact .pure _
  · exact .bind (deaf_move t _ direction) fun _ => .pure _

theorem deaf_strike (o : Options) (half : Bool) (targeting : Option Targeting) (i : Impact) :
    Deaf (strike o half targeting i) := by
  have found := deaf_targets o targeting
  cases i with
  | damage quantity kind save =>
    exact .bind found fun ts => .bind (deaf_amount quantity) fun n =>
      .bind (.each (deaf_strikeDamage n kind save half) ts) fun _ => .pure _
  | healing quantity =>
    exact .bind found fun ts => .bind (deaf_amount quantity) fun n =>
      .bind (.each (fun t => deaf_heal t n) ts) fun _ => .pure _
  | condition condition duration save =>
    exact .bind found fun ts => .bind (.each (deaf_strikeCondition condition duration save) ts) fun _ => .pure _
  | movement distance direction save =>
    exact .bind found fun ts => .bind (.each (deaf_strikeMovement distance direction save) ts) fun _ => .pure _
  | summon creature count position =>
    simp only [strike]
    split
    · exact .fail _
    · exact .bind (.each (fun _ => deaf_summon creature position) _) fun _ => .pure _
  | custom payload extras => exact .bind (deaf_dump _) fun _ => .pure _

theorem deaf_strikeAll (o : Options) (aim : Option (List String)) (half : Bool) : ∀ is : List Impact,
    Deaf (strikeAll o aim half is)
  | [] => fun _ _ alike => ⟨rfl, alike⟩
  | i :: is => by
    intro e f alike
    obtain ⟨first, alike'⟩ := Deaf.guarded i.kind (deaf_strike o half (aimed aim none) i) _ _ alike
    obtain ⟨rest, alike''⟩ := deaf_strikeAll o aim half is _ _ alike'
    simp only [strikeAll]
    exact ⟨by rw [first, rest], alike''⟩

/-! ## Nested effects -/

/-- What a save leaves to a target that made it. -/
def spared (o : Options) (half : Bool) (s : Save) (onSuccess onFailure : List Effect) (t : Target) (e : Encounter) :
    List Outcome × Encounter :=
  if onSuccess.isEmpty then strikeAll o (some [t.id]) true (reduced s onFailure) e
  else resolveAll o (some [t.id]) half onSuccess e

theorem branch_spared {o : Options} {s : Save} {t : Target} {e f : Encounter} {roll : Option SaveRoll}
    (rolls : rollSave t.combatant s e.rule e = (roll, f)) (half : Bool) (onSuccess onFailure : List Effect)
    (saved : roll.any (·.saved) = true) :
    branch o half s onSuccess onFailure t e =
      ((⟨t.id, true, roll⟩, (spared o half s onSuccess onFailure t f).1), (spared o half s onSuccess onFailure t f).2) := by
  simp [branch, rolls, saved, spared]

section Nested

variable {o : Options} {half : Bool} {c d : List Outcome → List Outcome} {onSuccess onSuccess' onFailure onFailure'
  effects effects' : List Effect}

theorem follows_branch (s : Save) (t : Target)
    (made : Follows c (spared o half s onSuccess onFailure t) (spared o half s onSuccess' onFailure' t))
    (missed : Follows d (resolveAll o (some [t.id]) half onFailure) (resolveAll o (some [t.id]) half onFailure')) :
    Follows (fun b => (b.1, if b.1.saved then c b.2 else d b.2)) (branch o half s onSuccess onFailure t)
      (branch o half s onSuccess' onFailure' t) := by
  intro e f alike
  obtain ⟨same, alike'⟩ := deaf_rollSave t.combatant s _ _ alike
  obtain ⟨roll, e', rolls⟩ : ∃ roll e', rollSave t.combatant s e.rule e = (roll, e') := ⟨_, _, rfl⟩
  obtain ⟨roll', f', rolls'⟩ : ∃ roll f', rollSave t.combatant s f.rule f = (roll, f') := ⟨_, _, rfl⟩
  dsimp only at same alike'
  rw [rolls, rolls'] at same alike'
  cases same
  cases saved : roll.any (·.saved) with
  | false =>
    obtain ⟨same, alike''⟩ := missed _ _ alike'
    rw [branch_failed rolls half onFailure onSuccess saved, branch_failed rolls' half onFailure' onSuccess' saved]
    exact ⟨by rw [same]; rfl, alike''⟩
  | true =>
    obtain ⟨same, alike''⟩ := made _ _ alike'
    rw [branch_spared rolls half onSuccess onFailure saved, branch_spared rolls' half onSuccess' onFailure' saved]
    exact ⟨by rw [same]; rfl, alike''⟩

theorem follows_area (aim : Option (List String)) (targeting : Option Targeting) (region : Option Area)
    (nested : ∀ ids, Follows c (resolveAll o (some ids) half effects) (resolveAll o (some ids) half effects')) :
    Follows (Outcome.underArea c) (resolve o aim half (.area targeting region effects))
      (resolve o aim half (.area targeting region effects')) := by
  intro e f alike
  obtain ⟨same, -⟩ := deaf_inArea region _ _ alike
  have seats : f.seats = e.seats := by rw [Encounter.seats, alike.roster, Encounter.seats]
  have stays := inArea_state region e
  have stays' := inArea_state region f
  rw [resolve, resolve]
  simp only [Act.run] at same stays stays' ⊢
  rcases run : inArea region e with ⟨m | found, e'⟩ <;> rcases run' : inArea region f with ⟨m' | found', f'⟩ <;>
    rw [run, run'] at same <;> rw [run] at stays <;> rw [run'] at stays' <;> cases same <;> subst stays stays'
  · exact ⟨rfl, alike.notes _ _⟩
  · obtain ⟨below, alike'⟩ := nested ((found.getD e'.seats).map Target.id) _ _ alike
    dsimp only
    rw [seats, below]
    exact ⟨rfl, alike'⟩

theorem follows_save (aim : Option (List String)) (targeting : Option Targeting) {s : Save}
    (made : ∀ t, Follows c (spared o half s onSuccess onFailure t) (spared o half s onSuccess' onFailure' t))
    (missed : ∀ ids, Follows d (resolveAll o (some ids) half onFailure) (resolveAll o (some ids) half onFailure')) :
    Follows (Outcome.underSave c d) (resolve o aim half (.save targeting s onSuccess onFailure))
      (resolve o aim half (.save targeting s onSuccess' onFailure')) := by
  intro e f alike
  obtain ⟨same, alike'⟩ := deaf_targets o (aimed aim targeting) _ _ alike
  rw [resolve_save, resolve_save]
  simp only [Act.run] at same alike' ⊢
  rcases run : targets o (aimed aim targeting) e with ⟨m | found, e'⟩ <;>
    rcases run' : targets o (aimed aim targeting) f with ⟨m' | found', f'⟩ <;>
    rw [run, run'] at same alike' <;> cases same
  · exact ⟨rfl, alike'.notes _ _⟩
  · obtain ⟨below, alike''⟩ := Follows.forEach (fun t => follows_branch s t (made t) (missed [t.id])) found _ _ alike'
    dsimp only
    rw [below]
    exact ⟨rfl, alike''⟩

end Nested

theorem deaf_spared {o : Options} {half : Bool} {onSuccess : List Effect} (s : Save) (onFailure : List Effect)
    (t : Target) (success : Deaf (resolveAll o (some [t.id]) half onSuccess)) :
    Deaf (spared o half s onSuccess onFailure t) := by
  unfold spared
  cases onSuccess with
  | nil => exact deaf_strikeAll o _ true _
  | cons _ _ => exact success

theorem deaf_branch {o : Options} {half : Bool} {onSuccess onFailure : List Effect} (s : Save) (t : Target)
    (success : Deaf (resolveAll o (some [t.id]) half onSuccess))
    (failure : Deaf (resolveAll o (some [t.id]) half onFailure)) : Deaf (branch o half s onSuccess onFailure t) :=
  (follows_branch s t (deaf_spared s onFailure t success).follows failure.follows).deaf fun _ => by simp

mutual

/-- **No effect hears what was reported**, however deep it nests others. -/
theorem deaf_resolve (o : Options) : ∀ (effect : Effect) (aim : Option (List String)) (half : Bool),
    Deaf (resolve o aim half effect)
  | .impact targeting i, aim, half => by
    intro e f alike
    rw [resolve, resolve]
    exact Deaf.guarded i.kind (deaf_strike o half _ i) _ _ alike
  | .area targeting region effects, aim, half =>
    (follows_area aim targeting region fun ids => (deaf_resolveAll o effects (some ids) half).follows).deaf
      Outcome.underArea_id
  | .save targeting s onSuccess onFailure, aim, half =>
    (follows_save aim targeting (fun t => (deaf_spared s onFailure t (deaf_resolveAll o onSuccess _ half)).follows)
      fun ids => (deaf_resolveAll o onFailure (some ids) half).follows).deaf Outcome.underSave_id

theorem deaf_resolveAll (o : Options) : ∀ (effects : List Effect) (aim : Option (List String)) (half : Bool),
    Deaf (resolveAll o aim half effects)
  | [], _, _ => by
    intro e f alike
    rw [resolveAll, resolveAll]
    exact ⟨rfl, alike⟩
  | effect :: effects, aim, half => by
    intro e f alike
    obtain ⟨first, alike'⟩ := deaf_resolve o effect aim half _ _ alike
    obtain ⟨rest, alike''⟩ := deaf_resolveAll o effects aim half _ _ alike'
    rw [resolveAll, resolveAll]
    dsimp only
    exact ⟨by rw [first, rest], alike''⟩

end

end Encounter
end Bestiary
