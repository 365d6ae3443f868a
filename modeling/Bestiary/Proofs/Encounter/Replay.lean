import Bestiary.Proofs.Encounter.Seating
/-!
# Replay — a report is the log of what it reports

The outcomes of an action say what was done to whom (`Outcome.changes`).  Done again in their order on the roster that
was there before, they give the roster that is there after (`perform_replayed`).  An effect that fails has found its
targets and its amount first, so it fails before it changes anyone.
-/
namespace Bestiary

/-- Something that an outcome says was done to the combatant with an id. -/
inductive Change where
  | wound (id : String) (damage : Int)
  | mend (id : String) (healing : Int)
  | afflict (id : String) (condition : String) (duration : Option Nat)
  deriving DecidableEq, Repr

namespace Change

/-- The id of the combatant. -/
def id : Change → String
  | .wound id _ | .mend id _ | .afflict id _ _ => id

/-- The combatant after it. -/
def on : Change → Combatant → Combatant
  | .wound _ damage, c => { c with hp := max 0 (min c.maxHp (c.hp - damage)) }
  | .mend _ healing, c => { c with hp := max 0 (min c.maxHp (c.hp + healing)) }
  | .afflict _ condition duration, c =>
    { c with conditions := c.conditions ++
        (Label.ofText? condition).toList.map fun name => ⟨name, duration.map Int.ofNat, none⟩ }

/-- The roster after it. -/
def apply (change : Change) (roster : List Combatant) : List Combatant :=
  roster.map fun c => if c.id = change.id then change.on c else c

end Change

/-- The roster after some changes, one after the other. -/
def replay (changes : List Change) (roster : List Combatant) : List Combatant :=
  changes.foldl (fun roster change => change.apply roster) roster

theorem replay_nil (roster : List Combatant) : replay [] roster = roster := rfl

theorem replay_append (xs ys : List Change) (roster : List Combatant) :
    replay (xs ++ ys) roster = replay ys (replay xs roster) :=
  List.foldl_append

namespace Outcome

mutual

/-- What an outcome says was done, in order. -/
def changes : Outcome → List Change
  | .damage _ lines => lines.map fun l => .wound l.target l.damage
  | .healing lines => lines.map fun l => .mend l.target l.healing
  | .condition name lines => (lines.filter (·.applied)).map fun l => .afflict l.target name l.duration
  | .area _ effects => changesOfAll effects
  | .save branches => changesOfBranches branches
  | .failed _ _ | .movement _ | .summon _ _ | .custom _ => []

/-- What outcomes say was done, in order. -/
def changesOfAll : List Outcome → List Change
  | [] => []
  | o :: os => changes o ++ changesOfAll os

/-- What the outcomes of branches say was done, in order. -/
def changesOfBranches : List (SaveLine × List Outcome) → List Change
  | [] => []
  | (_, os) :: rest => changesOfAll os ++ changesOfBranches rest

end

theorem changesOfAll_singleton (o : Outcome) : changesOfAll [o] = changes o := by
  rw [changesOfAll, changesOfAll, List.append_nil]

theorem changesOfAll_append : ∀ xs ys : List Outcome, changesOfAll (xs ++ ys) = changesOfAll xs ++ changesOfAll ys
  | [], _ => rfl
  | x :: xs, ys => by
    rw [List.cons_append, changesOfAll, changesOfAll, changesOfAll_append xs ys, List.append_assoc]

theorem changesOfBranches_eq : ∀ branches : List (SaveLine × List Outcome),
    changesOfBranches branches = changesOfAll (branches.flatMap Prod.snd)
  | [] => rfl
  | (_, os) :: rest => by
    rw [changesOfBranches, changesOfBranches_eq rest, List.flatMap_cons, changesOfAll_append]

theorem changes_condition (name : String) (lines : List ConditionLine) :
    changes (.condition name lines) =
      lines.flatMap fun l => if l.applied then [.afflict l.target name l.duration] else [] := by
  rw [changes]
  induction lines with
  | nil => rfl
  | cons l lines ih =>
    rw [List.flatMap_cons, ← ih]
    cases h : l.applied <;> simp [h]

end Outcome

/-- A world in which whatever changes combatants answers, as it does under the rules alone. -/
structure World.Online (w : World) : Prop where
  damage : w.damageOffline = []
  healing : w.healingOffline = []
  condition : w.conditionOffline = []

theorem World.plain_online : World.plain.Online := ⟨rfl, rfl, rfl⟩

namespace Encounter

open Outcome (changesOfAll changesOfAll_singleton changesOfAll_append)

/-- An encounter in which ids are distinct, changes are answered, and those named in the options are seated. -/
structure Ready (o : Options) (e : Encounter) : Prop where
  distinct : e.ids.Nodup
  online : e.world.Online
  selected : ∀ t ∈ o.selected, Seated e t
  source : ∀ t ∈ o.source, Seated e t

theorem Ready.transfer {o : Options} {e f : Encounter} (h : Ready o e) (same : Undisturbed e f) : Ready o f where
  distinct := ids_of_undisturbed same ▸ h.distinct
  online := same.world ▸ h.online
  selected t ht := (h.selected t ht).transfer (ids_of_undisturbed same)
  source t ht := (h.source t ht).transfer (ids_of_undisturbed same)

/-! ## Steps that change one combatant after the other -/

/-- **A step that always answers, and answers with a log of what it changed**, as long as the backdrop is that of `e₀`. -/
def Lands {α : Type} (e₀ : Encounter) (d : Deed α) (log : α → List Change) : Prop :=
  ∀ e, e.backdrop = e₀.backdrop →
    ∃ a f, d.run e = (.ok a, f) ∧ f.backdrop = e₀.backdrop ∧ f.roster = replay (log a) e.roster

namespace Lands

variable {α β : Type} {e₀ : Encounter}

theorem pure {log : α → List Change} {a : α} (silent : log a = []) : Lands e₀ (Act.pure a : Deed α) log := by
  intro e same
  refine ⟨a, e, rfl, same, ?_⟩
  rw [silent, replay_nil]

theorem rolled (t : Target) (save : Option Save) {next : Option Bool → Deed α} {log : α → List Change}
    (second : ∀ saved, Lands e₀ (next saved) log) : Lands e₀ (Act.ofStep (saveAgainst t save) >>= next) log := by
  intro e same
  have quiet := scene_saveAgainst t save e
  obtain ⟨a, f, run, same', roster⟩ := second (saveAgainst t save e).1 _ ((backdrop_of_scene quiet).trans same)
  refine ⟨a, f, run, same', ?_⟩
  rw [roster, roster_of_scene quiet]

theorem map {d : Deed α} {log : α → List Change} {log' : β → List Change} (first : Lands e₀ d log) {finish : α → β}
    (same : ∀ a, log' (finish a) = log a) : Lands e₀ (d >>= fun a => Act.pure (finish a)) log' := by
  intro e he
  obtain ⟨a, f, run, hf, roster⟩ := first e he
  refine ⟨finish a, f, ?_, hf, ?_⟩
  · rw [Act.run_bind, run]
    rfl
  · rw [same, roster]

theorem each {d : α → Deed β} {log : β → List Change} : ∀ {as : List α}, (∀ a ∈ as, Lands e₀ (d a) log) →
    Lands e₀ (Act.each d as) (List.flatMap log)
  | [], _ => pure rfl
  | a :: as, steps => by
    intro e same
    obtain ⟨b, f, run, hf, first⟩ := steps a List.mem_cons_self e same
    obtain ⟨bs, g, runs, hg, rest⟩ := each (fun x hx => steps x (List.mem_cons_of_mem _ hx)) f hf
    refine ⟨b :: bs, g, ?_, hg, ?_⟩
    · have unrolled : Act.each d (a :: as) = d a >>= fun b => Act.each d as >>= fun bs => Act.pure (b :: bs) := rfl
      rw [unrolled, Act.run_bind, run]
      dsimp only
      rw [Act.run_bind, runs]
      rfl
    · rw [rest, first, List.flatMap_cons, replay_append]

end Lands

section Strikes

variable {o : Options} {e₀ : Encounter} (ready : Ready o e₀) {t : Target} (seated : Seated e₀ t)
include ready seated

/-- A change at the place of a target is the change of whoever has its id. -/
theorem alter_replayed {e : Encounter} (same : e.backdrop = e₀.backdrop) {change : Combatant → Combatant} (entry : Change)
    (own : entry.id = t.id) (does : ∀ c, change c = entry.on c) :
    (e.alter t change).roster = replay [entry] e.roster := by
  have ids := ids_of_undisturbed (undisturbed_of_backdrop same)
  rw [alter_of_seated (ids ▸ ready.distinct) (seated.transfer ids), ← own]
  simp only [replay, List.foldl_cons, List.foldl_nil, Change.apply, does]

theorem lands_damage (n : Int) (kind : Option String) (saved : Option Bool) :
    Lands e₀ (damage t n kind saved) fun l => [.wound l.target l.damage] := by
  intro e same
  have online : e.world.Online := (ready.transfer (undisturbed_of_backdrop same)).online
  have front := leaves_damage t n kind saved e
  simp only [damage, Act.run, online.damage, List.contains_nil, Bool.false_eq_true, if_false] at front ⊢
  exact ⟨_, _, rfl, front.trans same, alter_replayed ready seated same (.wound t.id _) rfl fun c => rfl⟩

theorem lands_heal (n : Int) : Lands e₀ (heal t n) fun l => [.mend l.target l.healing] := by
  intro e same
  have online : e.world.Online := (ready.transfer (undisturbed_of_backdrop same)).online
  have front := leaves_heal t n e
  simp only [heal, Act.run, online.healing, List.contains_nil, Bool.false_eq_true, if_false] at front ⊢
  exact ⟨_, _, rfl, front.trans same, alter_replayed ready seated same (.mend t.id _) rfl fun c => rfl⟩

theorem lands_setCondition (condition : Label) (duration : Option Nat) :
    Lands e₀ (setCondition t ⟨condition, duration.map Int.ofNat, none⟩)
      fun applied => if applied then [.afflict t.id condition.text duration] else [] := by
  intro e same
  have online : e.world.Online := (ready.transfer (undisturbed_of_backdrop same)).online
  have front := leaves_setCondition t ⟨condition, duration.map Int.ofNat, none⟩ e
  simp only [setCondition, Act.run, online.condition, List.contains_nil, Bool.false_eq_true, if_false] at front ⊢
  split
  · exact ⟨false, e, rfl, same, rfl⟩
  · rename_i free
    rw [if_neg free] at front
    refine ⟨true, _, rfl, front.trans same, ?_⟩
    exact alter_replayed ready seated same (.afflict t.id condition.text duration) rfl fun c => by
      simp [Change.on]

theorem lands_strikeDamage (n : Int) (kind : Option String) (save : Option Save) (half : Bool) :
    Lands e₀ (strikeDamage n kind save half t) fun l => [.wound l.target l.damage] :=
  Lands.rolled t save fun saved => lands_damage ready seated _ kind saved

theorem lands_strikeCondition (condition : Label) (duration : Option Nat) (save : Option Save) :
    Lands e₀ (strikeCondition condition duration save t)
      fun l => if l.applied then [.afflict l.target condition.text l.duration] else [] := by
  refine Lands.rolled t save fun saved => ?_
  dsimp only
  split
  · exact Lands.pure rfl
  · exact Lands.map (lands_setCondition ready seated condition _) fun applied => rfl

end Strikes

/-! ## Effects -/

/-- **A step whose outcome is the log of what it changed**, and which changed nobody if it failed. -/
structure Logs (e₀ : Encounter) (d : Deed Outcome) : Prop where
  answered : ∀ {e outcome f}, e.backdrop = e₀.backdrop → d.run e = (.ok outcome, f) →
    f.roster = replay outcome.changes e.roster
  failed : ∀ {e mishap f}, e.backdrop = e₀.backdrop → d.run e = (.error mishap, f) → f.roster = e.roster

namespace Logs

variable {α β : Type} {e₀ : Encounter}

theorem pure {outcome : Outcome} (silent : outcome.changes = []) : Logs e₀ (Act.pure outcome) where
  answered _ h := by
    cases h
    rw [silent, replay_nil]
  failed _ h := by cases h

theorem fail (m : Mishap) : Logs e₀ (Act.fail m) where
  answered _ h := by cases h
  failed _ h := by cases h; rfl

theorem of_lands {d : Deed Outcome} (h : Lands e₀ d Outcome.changes) : Logs e₀ d where
  answered same run := by
    obtain ⟨outcome, f, run', -, roster⟩ := h _ same
    rw [run] at run'
    cases run'
    exact roster
  failed same run := by
    obtain ⟨outcome, f, run', -, -⟩ := h _ same
    rw [run] at run'
    cases run'

/-- What leaves the scene as it is may come first, and may fail. -/
theorem after {d : Deed α} {next : α → Deed Outcome} {Q : α → Prop} (leaves : Leaves scene d)
    (answers : ∀ {e a f}, e.backdrop = e₀.backdrop → d.run e = (.ok a, f) → Q a) (second : ∀ a, Q a → Logs e₀ (next a)) :
    Logs e₀ (d >>= next) where
  answered {e outcome g} same run := by
    have quiet := leaves e
    rw [Act.run_bind] at run
    split at run
    · rename_i a f first
      rw [first] at quiet
      rw [← roster_of_scene quiet]
      exact (second a (answers same first)).answered ((backdrop_of_scene quiet).trans same) run
    · cases run
  failed {e mishap g} same run := by
    have quiet := leaves e
    rw [Act.run_bind] at run
    split at run
    · rename_i a f first
      rw [first] at quiet
      rw [← roster_of_scene quiet]
      exact (second a (answers same first)).failed ((backdrop_of_scene quiet).trans same) run
    · rename_i m f first
      rw [first] at quiet
      cases run
      exact roster_of_scene quiet

end Logs

theorem logs_strike {o : Options} {e₀ : Encounter} (ready : Ready o e₀) (half : Bool) (targeting : Option Targeting)
    (i : Impact) : Logs e₀ (strike o half targeting i) := by
  have aim {k : List Target → Deed Outcome} (h : ∀ ts, (∀ t ∈ ts, Seated e₀ t) → Logs e₀ (k ts)) :
      Logs e₀ (targets o targeting >>= k) := by
    refine Logs.after (leaves_targets o targeting) (fun {e ts f} same run => ?_) h
    have ids := ids_of_undisturbed (undisturbed_of_backdrop same)
    have there := ready.transfer (undisturbed_of_backdrop same)
    exact fun t ht => (targets_seated targeting there.selected there.source run t ht).transfer ids.symm
  have quietly {α : Type} {d : Deed α} {k : α → Deed Outcome} (leaves : Leaves scene d) (h : ∀ a, Logs e₀ (k a)) :
      Logs e₀ (d >>= k) :=
    Logs.after (Q := fun _ => True) leaves (fun _ _ => trivial) fun a _ => h a
  -- Targets and the amount come first and may fail; from then on nothing does.
  cases i with
  | damage quantity kind save =>
    refine aim fun ts seated => quietly (leaves_amount quantity) fun n => Logs.of_lands ?_
    refine Lands.map (Lands.each fun t ht => lands_strikeDamage ready (seated t ht) n kind save half) fun lines => ?_
    rw [Outcome.changes, List.map_eq_flatMap]
  | healing quantity =>
    refine aim fun ts seated => quietly (leaves_amount quantity) fun n => Logs.of_lands ?_
    refine Lands.map (Lands.each fun t ht => lands_heal ready (seated t ht) n) fun lines => ?_
    rw [Outcome.changes, List.map_eq_flatMap]
  | condition condition duration save =>
    refine aim fun ts seated => Logs.of_lands ?_
    refine Lands.map (Lands.each fun t ht => lands_strikeCondition ready (seated t ht) condition duration save)
      fun lines => ?_
    exact Outcome.changes_condition condition.text lines
  | movement distance direction save =>
    refine aim fun ts _ => quietly (Leaves.each ts (leaves_strikeMovement distance direction save)) fun lines => ?_
    exact Logs.pure rfl
  | summon creature count position =>
    simp only [strike]
    split
    · exact Logs.fail _
    · exact quietly (Leaves.each _ fun _ => leaves_summon creature position) fun came => Logs.pure rfl
  | custom payload extras => exact quietly (leaves_dump _) fun dumped => Logs.pure rfl

theorem guarded_replayed {e₀ e : Encounter} (same : e.backdrop = e₀.backdrop) (kind : EffectKind) {d : Deed Outcome}
    (h : Logs e₀ d) : (guarded kind d e).2.roster = replay (guarded kind d e).1.changes e.roster := by
  unfold guarded
  split
  · rename_i run
    exact h.answered same run
  · rename_i run
    have still := h.failed same run
    exact still
  · rename_i run
    have still := h.failed same run
    exact still

/-- What is replayed, beside the backdrop that lets the next step be replayed too. -/
def Replayed (o : Options) (e : Encounter) (os : List Outcome) (f : Encounter) : Prop :=
  f.backdrop = e.backdrop ∧ (Ready o e → f.roster = replay (changesOfAll os) e.roster)

/-- **Every step of a resolution is replayed by its outcomes.** -/
theorem traced_replayed (o : Options) : Traced o (Replayed o) where
  nothing e := ⟨rfl, fun _ => rfl⟩
  andThen := by
    rintro e f g xs ys ⟨hf, first⟩ ⟨hg, second⟩
    refine ⟨hg.trans hf, fun ready => ?_⟩
    rw [second (ready.transfer (undisturbed_of_backdrop hf)), first ready, changesOfAll_append, replay_append]
  reporting n e := ⟨backdrop_note n e, fun _ => rfl⟩
  aiming targeting e :=
    ⟨backdrop_of_scene (leaves_targets o targeting e), fun _ => roster_of_scene (leaves_targets o targeting e)⟩
  rolling c s e :=
    ⟨backdrop_of_scene (scene_rollSave c s e.rule e), fun _ => roster_of_scene (scene_rollSave c s e.rule e)⟩
  striking half targeting i e := by
    refine ⟨(traced_backdrop o).striking half targeting i e, fun ready => ?_⟩
    rw [changesOfAll_singleton]
    exact guarded_replayed rfl i.kind (logs_strike ready half targeting i)
  failing h := h
  nesting := by
    rintro ids os e f ⟨hf, run⟩
    refine ⟨hf, fun ready => ?_⟩
    rw [changesOfAll_singleton, Outcome.changes]
    exact run ready
  branching := by
    rintro branches e f ⟨hf, run⟩
    refine ⟨hf, fun ready => ?_⟩
    rw [changesOfAll_singleton, Outcome.changes, Outcome.changesOfBranches_eq]
    exact run ready

/-- An effect that failed changed nobody, and one that did not changed what its outcome says. -/
theorem resolve_replayed {o : Options} {e : Encounter} (ready : Ready o e) (aim : Option (List String)) (half : Bool)
    (effect : Effect) :
    (resolve o aim half effect e).2.roster = replay (resolve o aim half effect e).1.changes e.roster := by
  have run := (resolve_traced (traced_replayed o) effect aim half e).2 ready
  rwa [changesOfAll_singleton] at run

/-- **The report of an action is the log of what it did.**  Where ids are distinct and the options name combatants of the
roster, replaying the report on the roster from before the action gives the roster after it; nothing else is touched;
and an effect that ends as failed, wherever in the action it stands, changed nobody. -/
theorem perform_replayed (o : Options) (a : Action) (e : Encounter) (distinct : (e.roster.map Combatant.id).Nodup)
    (online : e.world.Online) (selected : ∀ t ∈ o.selected, t ∈ e.seats) (source : ∀ t ∈ o.source, t ∈ e.seats) :
    (perform o a e).2.roster = replay (changesOfAll (perform o a e).1.effects) e.roster ∧
    Undisturbed e (perform o a e).2 ∧
    ∀ g, Undisturbed e g → ∀ aim half effect kind error, (resolve o aim half effect g).1 = .failed kind error →
      (resolve o aim half effect g).2.roster = g.roster ∧ Undisturbed g (resolve o aim half effect g).2 := by
  have ready : Ready o e :=
    ⟨distinct, online, fun t ht => seated_of_mem_seats (selected t ht), fun t ht => seated_of_mem_seats (source t ht)⟩
  refine ⟨(perform_traced (traced_replayed o) a e).2 ready, perform_undisturbed o a e, ?_⟩
  intro g same aim half effect kind error ended
  have run := resolve_replayed (ready.transfer same) aim half effect
  rw [ended, Outcome.changes, replay_nil] at run
  exact ⟨run, undisturbed_of_backdrop (resolve_traced (traced_backdrop o) effect aim half g)⟩

/-- Someone with ten of twelve hit points. -/
def fighter (id : String) (side : Side) : Combatant :=
  { id := id, name := ⟨"Fighter", by decide⟩, side := side, hp := 10, maxHp := 12, conditions := [],
    abilities := .empty, savingThrows := .empty, position := .null, extras := [] }

/-- A knight and a wolf; the first die is too low for a save and the second is high enough. -/
def skirmish : Encounter := opening [fighter "knight" .player, fighter "wolf" .monster] [3, 18]

/-- A storm that strikes everyone, harder if they do not save, calls nobody, and heals the one who was chosen. -/
def storm : Action :=
  let hold : Save := { (default : Save) with ability := some .constitution, dc := some 12, half := true }
  { id := ⟨"storm", by decide⟩, name := ⟨"Storm", by decide⟩, description := "", economy := .lair, cost := 0,
    trigger := none, recharge := none, phase := none,
    effects :=
      [.area none none
        [.save none hold []
          [.impact none (.damage (.fixed 7) none none), .impact none (.condition ⟨"Prone", by decide⟩ (some 3) none)]],
        .impact none (.summon .null 1 .null), .impact none (.healing (.fixed 9))] }

/-- The wolf acts and the knight is chosen. -/
def knightChosen : Options := ⟨skirmish.seats[1]?, none, skirmish.seats.take 1⟩

theorem perform_replayed_storm :
    changesOfAll (perform knightChosen storm skirmish).1.effects =
      [.wound "knight" 7, .afflict "knight" "Prone" (some 3), .wound "wolf" 3, .mend "knight" 9] ∧
    (perform knightChosen storm skirmish).2.roster =
      replay (changesOfAll (perform knightChosen storm skirmish).1.effects) skirmish.roster :=
  ⟨by decide +kernel, (perform_replayed knightChosen storm skirmish (by decide) World.plain_online
    (fun t ht => List.mem_of_mem_take ht) (fun t ht => List.mem_of_getElem? ht)).1⟩

end Encounter
end Bestiary
