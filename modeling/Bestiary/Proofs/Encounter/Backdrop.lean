import Bestiary.Proofs.Encounter.Trace
/-!
# Backdrop — what effects leave alone

The scene of an encounter is the encounter without dice, random choices, the count of summons and what was reported;
the backdrop is the scene without hit points and conditions.  Finding targets, rolling and moving leave the scene as it
is, and no effect changes the backdrop (`perform_undisturbed`), whether it succeeds or fails half way.
-/
namespace Bestiary

/-- A combatant without hit points and conditions. -/
def Combatant.bare (c : Combatant) : Combatant := { c with hp := 0, conditions := [] }

/-- Whether listeners are told. -/
def Emission.isAnnounced : Emission → Bool
  | .note _ => false
  | .announce _ _ => true

namespace Encounter

/-- The encounter without what chance and the log change: of the stream only the announcements are left. -/
def scene (e : Encounter) : Encounter :=
  { e with
    cup := .ofFaces []
    draws := ⟨[], 0⟩
    summoned := 0
    rolled := []
    journal := e.journal.filter Emission.isAnnounced }

/-- **The encounter without what effects change.** -/
def backdrop (e : Encounter) : Encounter := { e.scene with roster := e.roster.map Combatant.bare }

theorem roster_of_scene {e f : Encounter} (h : f.scene = e.scene) : f.roster = e.roster := by
  have shown (g : Encounter) : g.scene.roster = g.roster := rfl
  rw [← shown f, h, shown e]

theorem backdrop_of_scene {e f : Encounter} (h : f.scene = e.scene) : f.backdrop = e.backdrop := by
  rw [backdrop, backdrop, h, roster_of_scene h]

@[simp] theorem scene_note (n : Notice) (e : Encounter) : (note n e).scene = e.scene := by
  simp [scene, note, Emission.isAnnounced]

/-! ## Dice -/

@[simp] theorem scene_rollDie (sides : Nat) (e : Encounter) : (rollDie sides e).2.scene = e.scene := by
  unfold rollDie
  split
  · exact scene_note _ _
  · rfl

@[simp] theorem scene_rollDice (sides : Nat) : ∀ (n : Nat) (e : Encounter), (rollDice sides n e).2.scene = e.scene
  | 0, _ => rfl
  | n + 1, e => by
    simp only [rollDice]
    rw [scene_rollDice sides n, scene_rollDie]

@[simp] theorem scene_rollSave (c : Combatant) (s : Save) (rule : AdvantageRule) (e : Encounter) :
    (rollSave c s rule e).2.scene = e.scene := by
  unfold rollSave
  split
  · simp
  · simp

@[simp] theorem scene_saveAgainst (t : Target) (save : Option Save) (e : Encounter) :
    (saveAgainst t save e).2.scene = e.scene := by
  cases save with
  | none => rfl
  | some s => simp [saveAgainst, checkSave]

/-! ## Steps -/

/-- A step that leaves what a view shows as it is, whether it answers or fails. -/
abbrev Leaves {α : Type} (view : Encounter → Encounter) (d : Deed α) : Prop :=
  Act.Keeps (fun e f : Encounter => view f = view e) d

namespace Leaves

variable {view : Encounter → Encounter} {α β : Type}

theorem pure (a : α) : Leaves view (Act.pure a : Deed α) := fun _ => rfl

theorem fail (m : Mishap) : Leaves view (Act.fail m : Deed α) := fun _ => rfl

theorem bind {d : Deed α} {next : α → Deed β} (first : Leaves view d) (second : ∀ a, Leaves view (next a)) :
    Leaves view (d >>= next) :=
  Act.Keeps.bind (fun _ _ _ h k => k.trans h) first second

theorem each {d : α → Deed β} (as : List α) (step : ∀ a, Leaves view (d a)) : Leaves view (Act.each d as) :=
  Act.Keeps.each (R := fun e f : Encounter => view f = view e) (fun _ => rfl) (fun _ _ _ h k => k.trans h) as
    fun a _ => step a

theorem backdrop {d : Deed α} (h : Leaves scene d) : Leaves backdrop d := fun e => backdrop_of_scene (h e)

end Leaves

theorem leaves_rolled (t : Target) (save : Option Save) : Leaves scene (Act.ofStep (saveAgainst t save)) :=
  scene_saveAgainst t save

theorem leaves_targets (o : Options) (targeting : Option Targeting) : Leaves scene (targets o targeting) := by
  intro e
  obtain ⟨d, h⟩ := targets_state o targeting e
  rw [h]
  rfl

theorem leaves_amount (q : Quantity) : Leaves scene (amount q) := by
  cases q with
  | fixed n => exact Leaves.pure n
  | rolled text =>
    intro e
    simp only [amount, rollAmount, Act.run]
    split
    · rfl
    · split
      · rfl
      · rfl
      · exact scene_note _ _
      · exact scene_note _ _

theorem leaves_move (t : Target) (distance : Nat) (direction : Option String) :
    Leaves scene (move t distance direction) := by
  intro e
  simp only [move, Act.run]
  split
  · rfl
  · split
    · rfl
    · exact scene_note _ _

theorem leaves_summon (creature position : Json) : Leaves scene (summon creature position) := by
  intro e
  simp only [summon, Act.run]
  split
  · rfl
  · split
    · rfl
    · split
      · rfl
      · exact scene_note _ _

theorem leaves_dump (j : Json) : Leaves scene (dump j) := fun e => congrArg scene (dump_state j e)

/-! ## Changes to combatants -/

theorem bare_wound (n : Int) (c : Combatant) : (wound n c).bare = c.bare := rfl

theorem bare_mend (n : Int) (c : Combatant) : (mend n c).bare = c.bare := rfl

theorem backdrop_note (n : Notice) (e : Encounter) : (note n e).backdrop = e.backdrop :=
  backdrop_of_scene (scene_note n e)

theorem backdrop_alter (t : Target) {change : Combatant → Combatant} (same : ∀ c, (change c).bare = c.bare)
    (e : Encounter) : (e.alter t change).backdrop = e.backdrop := by
  unfold alter
  cases t.seat with
  | none => rfl
  | some n =>
    have kept : (e.roster.modify n change).map Combatant.bare = e.roster.map Combatant.bare := by
      apply List.ext_getElem?
      intro m
      simp only [List.getElem?_map, List.getElem?_modify]
      by_cases hm : n = m
      · cases e.roster[m]? <;> simp [hm, same]
      · simp [hm]
    simp only [backdrop, scene, kept]

theorem leaves_damage (t : Target) (n : Int) (kind : Option String) (saved : Option Bool) :
    Leaves backdrop (damage t n kind saved) := by
  intro e
  simp only [damage, Act.run]
  split
  · rfl
  · rw [backdrop_note]
    exact backdrop_alter t (bare_wound _) e

theorem leaves_heal (t : Target) (n : Int) : Leaves backdrop (heal t n) := by
  intro e
  simp only [heal, Act.run]
  split
  · rfl
  · rw [backdrop_note]
    exact backdrop_alter t (bare_mend _) e

theorem leaves_setCondition (t : Target) (condition : AppliedCondition) :
    Leaves backdrop (setCondition t condition) := by
  intro e
  simp only [setCondition, Act.run]
  split
  · rfl
  · split
    · rfl
    · rw [backdrop_note]
      apply backdrop_alter
      intro c
      rfl

/-! ## Effects -/

theorem leaves_strikeDamage (n : Int) (kind : Option String) (save : Option Save) (half : Bool) (t : Target) :
    Leaves backdrop (strikeDamage n kind save half t) :=
  Leaves.bind (leaves_rolled t save).backdrop fun saved => leaves_damage t _ kind saved

theorem leaves_strikeCondition (condition : Label) (duration : Option Nat) (save : Option Save) (t : Target) :
    Leaves backdrop (strikeCondition condition duration save t) := by
  refine Leaves.bind (leaves_rolled t save).backdrop fun saved => ?_
  dsimp only
  split
  · exact Leaves.pure _
  · exact Leaves.bind (leaves_setCondition t _) fun _ => Leaves.pure _

theorem leaves_strikeMovement (distance : Nat) (direction : Option String) (save : Option Save) (t : Target) :
    Leaves scene (strikeMovement distance direction save t) := by
  refine Leaves.bind (leaves_rolled t save) fun saved => ?_
  dsimp only
  split
  · exact Leaves.pure _
  · exact Leaves.bind (leaves_move t _ direction) fun _ => Leaves.pure _

theorem leaves_strike (o : Options) (half : Bool) (targeting : Option Targeting) (i : Impact) :
    Leaves backdrop (strike o half targeting i) := by
  have found := (leaves_targets o targeting).backdrop
  cases i with
  | damage quantity kind save =>
    refine Leaves.bind found fun ts => Leaves.bind (leaves_amount quantity).backdrop fun n => ?_
    exact Leaves.bind (Leaves.each ts (leaves_strikeDamage n kind save half)) fun _ => Leaves.pure _
  | healing quantity =>
    refine Leaves.bind found fun ts => Leaves.bind (leaves_amount quantity).backdrop fun n => ?_
    exact Leaves.bind (Leaves.each ts fun t => leaves_heal t n) fun _ => Leaves.pure _
  | condition condition duration save =>
    refine Leaves.bind found fun ts => ?_
    exact Leaves.bind (Leaves.each ts (leaves_strikeCondition condition duration save)) fun _ => Leaves.pure _
  | movement distance direction save =>
    refine Leaves.bind found fun ts => ?_
    exact Leaves.bind (Leaves.each ts fun t => (leaves_strikeMovement distance direction save t).backdrop)
      fun _ => Leaves.pure _
  | summon creature count position =>
    simp only [strike]
    split
    · exact Leaves.fail _
    · exact Leaves.bind (Leaves.each _ fun _ => (leaves_summon creature position).backdrop) fun _ => Leaves.pure _
  | custom payload extras => exact Leaves.bind (leaves_dump _).backdrop fun _ => Leaves.pure _

theorem backdrop_guarded (kind : EffectKind) {d : Deed Outcome} (h : Leaves backdrop d) (e : Encounter) :
    (guarded kind d e).2.backdrop = e.backdrop := by
  have kept := h e
  unfold guarded
  split
  · rename_i run
    rwa [run] at kept
  · rename_i run
    rw [run] at kept
    exact (backdrop_note _ _).trans kept
  · rename_i run
    rw [run] at kept
    exact (backdrop_note _ _).trans kept

theorem traced_backdrop (o : Options) : Traced o (fun e _ f => f.backdrop = e.backdrop) where
  nothing _ := rfl
  andThen h k := k.trans h
  reporting := backdrop_note
  aiming targeting := (leaves_targets o targeting).backdrop
  rolling c s e := backdrop_of_scene (scene_rollSave c s e.rule e)
  striking half targeting i := backdrop_guarded i.kind (leaves_strike o half targeting i)
  failing h := h
  nesting h := h
  branching h := h

/-- What stays as it was: who stands where and with what abilities, the round, the flags, the event, the rules of the
table and what was announced. -/
structure Undisturbed (e f : Encounter) : Prop where
  roster : f.roster.map Combatant.bare = e.roster.map Combatant.bare
  round : f.round = e.round
  onTurn : f.onTurn = e.onTurn
  reactionUsed : f.reactionUsed = e.reactionUsed
  bonusUsed : f.bonusUsed = e.bonusUsed
  trigger : f.trigger = e.trigger
  rule : f.rule = e.rule
  clock : f.clock = e.clock
  world : f.world = e.world
  announcements : Emission.announcements f.journal = Emission.announcements e.journal

theorem Undisturbed.trans {e f g : Encounter} (h : Undisturbed e f) (k : Undisturbed f g) : Undisturbed e g :=
  ⟨k.roster.trans h.roster, k.round.trans h.round, k.onTurn.trans h.onTurn, k.reactionUsed.trans h.reactionUsed,
    k.bonusUsed.trans h.bonusUsed, k.trigger.trans h.trigger, k.rule.trans h.rule, k.clock.trans h.clock,
    k.world.trans h.world, k.announcements.trans h.announcements⟩

theorem announcements_filter (stream : List Emission) :
    Emission.announcements (stream.filter Emission.isAnnounced) = Emission.announcements stream := by
  unfold Emission.announcements
  rw [List.filterMap_filter]
  congr 1
  funext x
  cases x <;> rfl

theorem undisturbed_of_backdrop {e f : Encounter} (h : f.backdrop = e.backdrop) : Undisturbed e f := by
  unfold backdrop scene at h
  injection h with roster round onTurn reactionUsed bonusUsed trigger rule clock _ _ world _ _ journal
  refine ⟨roster, round, onTurn, reactionUsed, bonusUsed, trigger, rule, clock, world, ?_⟩
  rw [← announcements_filter f.journal]
  exact (congrArg Emission.announcements journal).trans (announcements_filter e.journal)

/-- **No action changes the backdrop.** -/
theorem perform_undisturbed (o : Options) (a : Action) (e : Encounter) : Undisturbed e (perform o a e).2 :=
  undisturbed_of_backdrop (perform_traced (traced_backdrop o) a e)

/-- An hour to fight at. -/
def evening : Moment := ⟨⟨2024, 1, 2, 20, 0, 0, 0, none⟩, by decide⟩

/-- The opening of a fight under the rules alone, with dice that show these faces. -/
def opening (roster : List Combatant) (faces : List Int) : Encounter :=
  { roster := roster, round := 1, onTurn := false, reactionUsed := false, bonusUsed := false, trigger := none,
    rule := .cancel, clock := evening, cup := .ofFaces faces, draws := ⟨[], 0⟩, world := .plain, summoned := 0,
    rolled := [], journal := [] }

end Encounter
end Bestiary
