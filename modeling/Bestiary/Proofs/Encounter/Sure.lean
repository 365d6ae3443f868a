import Bestiary.Proofs.Encounter.Backdrop
/-!
# Sure — steps that never fail

A step is sure where an invariant holds if it answers there and keeps the invariant (`Act.Sure`).  In the world of the
rules alone finding targets, rolling saves, dealing damage, healing, setting conditions and moving are all sure.  An
amount that is rolled is not, nor is what a scribe may refuse: a creature to be printed and a document to be dumped.
-/
namespace Bestiary

namespace Act

variable {σ ε α β : Type}

/-- The step answers wherever the invariant holds, and the invariant still holds after it. -/
def Sure (I : σ → Prop) (act : Act σ ε α) : Prop := ∀ s, I s → ∃ a now, act.run s = (.ok a, now) ∧ I now

namespace Sure

variable {I : σ → Prop}

theorem pure (a : α) : Sure I (Act.pure a : Act σ ε α) := fun s h => ⟨a, s, rfl, h⟩

theorem ofStep {step : σ → α × σ} (keeps : ∀ s, I s → I (step s).2) : Sure I (Act.ofStep step : Act σ ε α) :=
  fun s h => ⟨(step s).1, (step s).2, rfl, keeps s h⟩

theorem bind {act : Act σ ε α} {next : α → Act σ ε β} (first : Sure I act) (second : ∀ a, Sure I (next a)) :
    Sure I (act >>= next) := by
  intro s h
  obtain ⟨a, now, ran, still⟩ := first s h
  rw [run_bind, ran]
  exact second a now still

theorem each {act : α → Act σ ε β} (step : ∀ a, Sure I (act a)) : ∀ as, Sure I (Act.each act as)
  | [] => pure []
  | a :: as => bind (step a) fun b => bind (each step as) fun bs => pure (b :: bs)

end Sure

end Act

namespace Encounter

open Act (Sure)

/-- **The encounter goes by the rules alone**, whoever dumps and prints. -/
def Plain (e : Encounter) : Prop :=
  e.world = { World.plain with dumper := e.world.dumper, printer := e.world.printer }

theorem world_of_backdrop {e f : Encounter} (same : f.backdrop = e.backdrop) : f.world = e.world :=
  have shown (g : Encounter) : g.backdrop.world = g.world := rfl
  (shown f).symm.trans ((congrArg Encounter.world same).trans (shown e))

theorem Plain.of_backdrop {e f : Encounter} (plain : Plain e) (same : f.backdrop = e.backdrop) : Plain f := by
  rw [Plain, world_of_backdrop same]
  exact plain

/-! ## Steps in a plain world -/

/-- A step that leaves the backdrop is sure if it answers. -/
theorem sure_of_leaves {α : Type} {d : Deed α} (leaves : Leaves backdrop d)
    (answers : ∀ e, Plain e → ∃ a f, d.run e = (.ok a, f)) : Sure Plain d := by
  intro e plain
  obtain ⟨a, f, ran⟩ := answers e plain
  have same := leaves e
  rw [ran] at same
  exact ⟨a, f, ran, plain.of_backdrop same⟩

theorem sure_rolled (t : Target) (save : Option Save) : Sure Plain (Act.ofStep (saveAgainst t save) : Deed _) :=
  sure_of_leaves (leaves_rolled t save).backdrop fun _ _ => ⟨_, _, rfl⟩

theorem sure_inArea (region : Option Area) : Sure Plain (inArea region) := by
  intro e plain
  refine ⟨none, e, ?_, plain⟩
  simp only [inArea, Act.run, Plain] at plain ⊢
  rw [plain]
  rfl

/-- Finding targets uses up random choices and nothing else, and always finds some list. -/
theorem targets_found (o : Options) (targeting : Option Targeting) {e : Encounter} (plain : Plain e) :
    ∃ ts draws, (targets o targeting).run e = (.ok ts, { e with draws := draws }) := by
  suffices answers : ∃ ts f, (targets o targeting).run e = (.ok ts, f) by
    obtain ⟨ts, f, ran⟩ := answers
    obtain ⟨draws, same⟩ := targets_state o targeting e
    rw [ran] at same
    obtain rfl : f = { e with draws := draws } := same
    exact ⟨ts, draws, ran⟩
  cases targeting with
  | none => exact ⟨_, _, rfl⟩
  | some t =>
    obtain ⟨choice, count, ids, area⟩ := t
    cases choice with
    | area =>
      obtain ⟨found, f, ran, -⟩ := sure_inArea area e plain
      exact ⟨found.getD [], f, by simp only [targets, Act.run, Act.bind] at ran ⊢; rw [ran]; rfl⟩
    | _ => exact ⟨_, _, rfl⟩

theorem sure_damage (t : Target) (n : Int) (kind : Option String) (saved : Option Bool) :
    Sure Plain (damage t n kind saved) := by
  refine sure_of_leaves (leaves_damage t n kind saved) fun e plain => ?_
  simp only [damage, Act.run, Plain] at plain ⊢
  rw [plain]
  exact ⟨_, _, rfl⟩

theorem sure_heal (t : Target) (n : Int) : Sure Plain (heal t n) := by
  refine sure_of_leaves (leaves_heal t n) fun e plain => ?_
  simp only [heal, Act.run, Plain] at plain ⊢
  rw [plain]
  exact ⟨_, _, rfl⟩

theorem sure_setCondition (t : Target) (condition : AppliedCondition) : Sure Plain (setCondition t condition) := by
  refine sure_of_leaves (leaves_setCondition t condition) fun e plain => ?_
  simp only [setCondition, Act.run, Plain] at plain ⊢
  rw [plain]
  exact ⟨_, _, rfl⟩

theorem sure_move (t : Target) (distance : Nat) (direction : Option String) :
    Sure Plain (move t distance direction) := by
  refine sure_of_leaves (leaves_move t distance direction).backdrop fun e plain => ?_
  simp only [move, Act.run, Plain] at plain ⊢
  rw [plain]
  exact ⟨_, _, rfl⟩

/-- Nothing is summoned in a plain world: the creature is printed, or the printer refuses it and nothing has changed. -/
theorem summon_plain (creature position : Json) {e : Encounter} (plain : Plain e) :
    (summon creature position).run e =
      match e.world.printer.refusal? creature with
      | some reason => (.error (.unwritten reason), e)
      | none => (.ok none, note (.notSummoned creature) e) := by
  have nothing : e.world.summonOffline = false ∧ ¬e.summoned < e.world.summons := by
    rw [plain]
    exact ⟨rfl, Nat.not_lt_zero _⟩
  exact (if_neg (ne_true_of_eq_false nothing.1)).trans (if_neg nothing.2)

theorem sure_summon {creature : Json} (position : Json) :
    Sure (fun e => Plain e ∧ e.world.printer.refusal? creature = none) (summon creature position) := by
  rintro e ⟨plain, printed⟩
  refine ⟨none, note (.notSummoned creature) e, ?_, plain, printed⟩
  rw [summon_plain creature position plain, printed]

/-! ## Strikes in a plain world -/

theorem sure_strikeDamage (n : Int) (kind : Option String) (save : Option Save) (half : Bool) (t : Target) :
    Sure Plain (strikeDamage n kind save half t) :=
  .bind (sure_rolled t save) fun saved => sure_damage t (dealt n half saved save) kind saved

theorem sure_strikeCondition (condition : Label) (duration : Option Nat) (save : Option Save) (t : Target) :
    Sure Plain (strikeCondition condition duration save t) := by
  refine .bind (sure_rolled t save) fun saved => ?_
  dsimp only
  split
  · exact .pure _
  · exact .bind (sure_setCondition t _) fun applied => .pure _

theorem sure_strikeMovement (distance : Nat) (direction : Option String) (save : Option Save) (t : Target) :
    Sure Plain (strikeMovement distance direction save t) := by
  refine .bind (sure_rolled t save) fun saved => ?_
  dsimp only
  split
  · exact .pure _
  · exact .bind (sure_move t _ direction) fun _ => .pure _

end Encounter
end Bestiary
