import Bestiary.Proofs.Encounter.Inline
import Bestiary.Proofs.Encounter.Mirror
import Bestiary.Proofs.Encounter.Sure
import Bestiary.Proofs.Json.Shape
/-!
# Mishaps — the ways in which an effect cannot be applied

In the world of the rules alone an effect fails for want of a creature to summon, or because the text of an amount comes
to no number; both can be told from the effect and the dice before it is applied (`Effect.mishap?`).  Else it fails only
if a scribe refuses a document it is given: the dumper a custom effect, the printer a creature that is not summoned
(`Effect.unwritten?`).  What resolving an effect tries is listed attempt by attempt, areas and saves before what they
nest (`attempts`), and each attempt fails exactly if there is a mishap, before it has changed any combatant
(`resolve_mishaps`).
-/
namespace Bestiary

/-- The mishap of an amount: its text comes to no number with these dice. -/
def Quantity.mishap? (cup : Dice.Cup) : Quantity → Option Mishap
  | .fixed _ => none
  | .rolled text =>
    match (Dice.Cup.reckon text).run cup with
    | (.error cause, _) => some (.amount cause)
    | (.ok _, _) => none

/-- The mishap of an impact: an amount that comes to no number, or a summons of nobody. -/
def Impact.mishap? (cup : Dice.Cup) : Impact → Option Mishap
  | .damage quantity _ _ | .healing quantity => quantity.mishap? cup
  | .summon creature _ _ => if creature = .null then some .noCreature else none
  | .condition .. | .movement .. | .custom .. => none

/-- **What goes wrong with an effect by itself.**  Areas and saves only pass on what they nest. -/
def Effect.mishap? (cup : Dice.Cup) : Effect → Option Mishap
  | .impact _ i => i.mishap? cup
  | .area .. | .save .. => none

/-- Why a scribe of the world refuses what an impact gives it: a custom effect is dumped as it is aimed, and a creature is
printed once it is not summoned. -/
def Impact.unwritten? (w : World) (targeting : Option Targeting) : Impact → Option Mishap
  | .custom payload extras =>
    (w.dumper.refusal? (Effect.writeImpact .full targeting (.custom payload extras))).map .unwritten
  | .summon creature count _ => if 0 < count then (w.printer.refusal? creature).map .unwritten else none
  | .damage .. | .healing .. | .condition .. | .movement .. => none

/-- What an impact gives to a scribe suits it and is within its reach. -/
def Impact.Writable (w : World) (targeting : Option Targeting) : Impact → Prop
  | .custom payload extras =>
    let written := Effect.writeImpact .full targeting (.custom payload extras)
    written.whole = true ∧ written.depth ≤ w.dumper.reach
  | .summon creature _ _ => creature.countable = true ∧ creature.depth ≤ w.printer.reach
  | .damage .. | .healing .. | .condition .. | .movement .. => True

theorem Impact.unwritten?_eq_none {w : World} {targeting : Option Targeting} {i : Impact}
    (writable : i.Writable w targeting) : i.unwritten? w targeting = none := by
  cases i with
  | custom payload extras => rw [unwritten?, w.dumper.shallow _ writable.1 writable.2, Option.map_none]
  | summon creature count position =>
    rw [unwritten?, w.printer.shallow _ writable.1 writable.2, Option.map_none, ite_self]
  | _ => rfl

/-- Whether the effect could not be applied. -/
def Outcome.IsFailed : Outcome → Prop
  | .failed _ _ => True
  | _ => False

namespace Encounter

open Act (Sure)
open Outcome (nodes nodesOfAll nodesOfBranches_eq IsFailed)

/-! ## One impact -/

theorem lookup_totals {e : Encounter} (plain : Plain e) (text : String) : e.world.totals.lookup text = none := by
  rw [plain]
  rfl

/-- What rolling an amount changes before it fails: the dice and the list of what was rolled. -/
theorem amount_fails {quantity : Quantity} {e : Encounter} {m : Mishap} (plain : Plain e)
    (mishap : quantity.mishap? e.cup = some m) :
    ∃ cup rolled, (amount quantity).run e = (.error m, { e with cup := cup, rolled := rolled }) := by
  cases quantity with
  | fixed n => cases mishap
  | rolled text =>
    have unlisted := lookup_totals plain text
    simp only [Quantity.mishap?] at mishap
    rcases reckoned : (Dice.Cup.reckon text).run e.cup with ⟨cause | reckoning, cup⟩
    · rw [reckoned] at mishap
      cases mishap
      exact ⟨cup, e.rolled ++ [text], by simp only [amount, rollAmount, Act.run, unlisted] at reckoned ⊢; rw [reckoned]⟩
    · rw [reckoned] at mishap
      cases mishap

theorem amount_answers {quantity : Quantity} {e : Encounter} (plain : Plain e) (fine : quantity.mishap? e.cup = none) :
    ∃ n f, (amount quantity).run e = (.ok n, f) ∧ Plain f := by
  have leaves := leaves_amount quantity e
  suffices answers : ∃ n f, (amount quantity).run e = (.ok n, f) by
    obtain ⟨n, f, ran⟩ := answers
    rw [ran] at leaves
    exact ⟨n, f, ran, plain.of_backdrop (backdrop_of_scene leaves)⟩
  cases quantity with
  | fixed n => exact ⟨n, e, rfl⟩
  | rolled text =>
    have unlisted := lookup_totals plain text
    simp only [Quantity.mishap?] at fine
    rcases reckoned : (Dice.Cup.reckon text).run e.cup with ⟨cause | reckoning, cup⟩
    · rw [reckoned] at fine
      cases fine
    · simp only [amount, rollAmount, Act.run, unlisted] at reckoned ⊢
      rw [reckoned]
      cases reckoning <;> exact ⟨_, _, rfl⟩

/-- What an impact that comes to nothing has used up by then: dice, random choices and the list of what was rolled. -/
def Unharmed (e f : Encounter) : Prop :=
  ∃ cup draws rolled journal, f = { e with cup := cup, draws := draws, rolled := rolled, journal := journal }

/-- Finding targets and rolling an amount that comes to nothing changes no combatant. -/
theorem rolled_fails (o : Options) (targeting : Option Targeting) {quantity : Quantity} {e : Encounter} {m : Mishap}
    (plain : Plain e) (mishap : quantity.mishap? e.cup = some m) {α : Type} (next : List Target → Int → Deed α) :
    ∃ f, (targets o targeting >>= fun ts => amount quantity >>= next ts).run e = (.error m, f) ∧ Unharmed e f := by
  obtain ⟨ts, draws, found⟩ := targets_found o targeting plain
  obtain ⟨cup, rolled, failed⟩ := @amount_fails quantity { e with draws := draws } m plain mishap
  refine ⟨{ e with cup := cup, draws := draws, rolled := rolled }, ?_, cup, draws, rolled, e.journal, rfl⟩
  rw [Act.run_bind, found]
  dsimp only
  rw [Act.run_bind, failed]

theorem Unharmed.refl (e : Encounter) : Unharmed e e := ⟨e.cup, e.draws, e.rolled, e.journal, rfl⟩

/-- **An impact with a mishap fails with it and harms nobody.** -/
theorem strike_fails (o : Options) (half : Bool) (targeting : Option Targeting) {i : Impact} {e : Encounter}
    {m : Mishap} (plain : Plain e) (mishap : i.mishap? e.cup = some m) :
    ∃ f, (strike o half targeting i).run e = (.error m, f) ∧ Unharmed e f := by
  cases i with
  | damage quantity kind save => exact rolled_fails o targeting plain mishap _
  | healing quantity => exact rolled_fails o targeting plain mishap _
  | summon creature count position =>
    simp only [Impact.mishap?, Option.ite_none_right_eq_some] at mishap
    obtain ⟨nobody, ⟨⟩⟩ := mishap
    refine ⟨e, ?_, .refl e⟩
    rw [strike, if_pos nobody, Act.run_fail]
  | condition condition duration save => cases mishap
  | movement distance direction save => cases mishap
  | custom payload extras => cases mishap

theorem run_dump (j : Json) (e : Encounter) :
    (dump j).run e =
      match e.world.dumper.refusal? j with
      | some reason => (.error (.unwritten reason), e)
      | none => (.ok j.nulled, e) := by
  simp only [Act.run, dump, Dumper.dump]
  cases e.world.dumper.refusal? j <;> rfl

/-- **The first of those who are summoned is refused**, and the others are not tried. -/
theorem summons_refused {creature : Json} (position : Json) {count : Nat} {e : Encounter} {reason : String}
    (plain : Plain e) (some_come : 0 < count) (refused : e.world.printer.refusal? creature = some reason) :
    (Act.each (fun _ => summon creature position) (List.range count)).run e = (.error (.unwritten reason), e) := by
  obtain ⟨n, rfl⟩ : ∃ n, count = n + 1 := Nat.exists_eq_add_one.2 some_come
  rw [List.range_succ_eq_map]
  exact (Act.run_bind _ _ e).trans (by rw [summon_plain creature position plain, refused])

theorem summons_answered {creature : Json} (position : Json) {count : Nat} {e : Encounter} (plain : Plain e)
    (written : 0 < count → e.world.printer.refusal? creature = none) :
    ∃ came f, (Act.each (fun _ => summon creature position) (List.range count)).run e = (.ok came, f) := by
  cases count with
  | zero => exact ⟨[], e, rfl⟩
  | succ n =>
    obtain ⟨came, f, ran, -⟩ :=
      Sure.each (fun _ => sure_summon position) (List.range (n + 1)) e ⟨plain, written n.succ_pos⟩
    exact ⟨came, f, ran⟩

/-- **An impact that a scribe refuses fails for its reason and changes nothing at all.** -/
theorem strike_unwritten (o : Options) (half : Bool) (targeting : Option Targeting) {i : Impact} {e : Encounter}
    {m : Mishap} (plain : Plain e) (fine : i.mishap? e.cup = none)
    (unwritten : i.unwritten? e.world targeting = some m) :
    (strike o half targeting i).run e = (.error m, e) := by
  cases i with
  | custom payload extras =>
    obtain ⟨reason, refused, rfl⟩ := Option.map_eq_some_iff.1 unwritten
    rw [strike, Act.run_bind, run_dump, refused]
  | summon creature count position =>
    simp only [Impact.mishap?, ite_eq_right_iff, reduceCtorEq, imp_false] at fine
    simp only [Impact.unwritten?, Option.ite_none_right_eq_some, Option.map_eq_some_iff] at unwritten
    obtain ⟨some_come, reason, refused, rfl⟩ := unwritten
    rw [strike, if_neg fine, Act.run_bind, summons_refused position plain some_come refused]
  | damage quantity kind save => cases unwritten
  | healing quantity => cases unwritten
  | condition condition duration save => cases unwritten
  | movement distance direction save => cases unwritten

theorem lined_answers (o : Options) (targeting : Option Targeting) {β : Type} {d : Target → Deed β}
    (sure : ∀ t, Sure Plain (d t)) (finish : List β → Outcome) {e : Encounter} (plain : Plain e) : ∃ lines f,
    (targets o targeting >>= fun ts => Act.each d ts >>= fun lines => Act.pure (finish lines)).run e =
      (.ok (finish lines), f) := by
  obtain ⟨ts, draws, found⟩ := targets_found o targeting plain
  obtain ⟨lines, g, struck, -⟩ := Sure.each sure ts { e with draws := draws } plain
  exact ⟨lines, g, run_lined found struck⟩

theorem rolled_answers (o : Options) (targeting : Option Targeting) {quantity : Quantity} {β : Type}
    {d : Int → Target → Deed β} (sure : ∀ n t, Sure Plain (d n t)) (finish : List β → Outcome) {e : Encounter}
    (plain : Plain e) (fine : quantity.mishap? e.cup = none) : ∃ lines f,
    (targets o targeting >>= fun ts => amount quantity >>= fun n => Act.each (d n) ts >>= fun lines =>
      Act.pure (finish lines)).run e = (.ok (finish lines), f) := by
  obtain ⟨ts, draws, found⟩ := targets_found o targeting plain
  obtain ⟨n, g, rolled, plain⟩ := @amount_answers quantity { e with draws := draws } plain fine
  obtain ⟨lines, h, struck, -⟩ := Sure.each (sure n) ts g plain
  refine ⟨lines, h, ?_⟩
  rw [Act.run_bind, found]
  dsimp only
  rw [Act.run_bind, rolled]
  dsimp only
  rw [Act.run_bind, struck]
  rfl

/-- **An impact without a mishap that no scribe refuses has an outcome of its own kind.** -/
theorem strike_answers (o : Options) (half : Bool) (targeting : Option Targeting) {i : Impact} {e : Encounter}
    (plain : Plain e) (fine : i.mishap? e.cup = none) (written : i.unwritten? e.world targeting = none) :
    ∃ outcome f,
    (strike o half targeting i).run e = (.ok outcome, f) ∧ outcome.kind = i.kind ∧ ¬IsFailed outcome := by
  cases i with
  | damage quantity kind save =>
    obtain ⟨lines, f, ran⟩ := rolled_answers o targeting (fun n t => sure_strikeDamage n kind save half t)
      (.damage kind) plain fine
    exact ⟨_, f, ran, rfl, not_false⟩
  | healing quantity =>
    obtain ⟨lines, f, ran⟩ := rolled_answers o targeting (fun n t => sure_heal t n) .healing plain fine
    exact ⟨_, f, ran, rfl, not_false⟩
  | condition condition duration save =>
    obtain ⟨lines, f, ran⟩ := lined_answers o targeting (sure_strikeCondition condition duration save)
      (.condition condition.text) plain
    exact ⟨_, f, ran, rfl, not_false⟩
  | movement distance direction save =>
    obtain ⟨lines, f, ran⟩ := lined_answers o targeting (sure_strikeMovement distance direction save) .movement plain
    exact ⟨_, f, ran, rfl, not_false⟩
  | summon creature count position =>
    simp only [Impact.mishap?, ite_eq_right_iff, reduceCtorEq, imp_false] at fine
    have printed : 0 < count → e.world.printer.refusal? creature = none := by simpa [Impact.unwritten?] using written
    obtain ⟨came, f, ran⟩ := summons_answered position plain printed
    refine ⟨.summon count (came.filterMap (·)), f, ?_, rfl, not_false⟩
    rw [strike, if_neg fine, Act.run_bind, ran]
    rfl
  | custom payload extras =>
    have dumped : e.world.dumper.refusal? (Effect.writeImpact .full targeting (.custom payload extras)) = none :=
      Option.map_eq_none_iff.1 written
    refine ⟨.custom (Effect.writeImpact .full targeting (.custom payload extras)).nulled, e, ?_, rfl, not_false⟩
    rw [strike, Act.run_bind, run_dump, dumped]
    rfl

/-! ## Attempts -/

/-- An effect as it is tried: whom it is aimed at, whether damage is halved, and the encounter it finds. -/
structure Attempt where
  aim : Option (List String)
  half : Bool
  effect : Effect
  encounter : Encounter

/-- What comes of an attempt, and the encounter after it. -/
def Attempt.run (o : Options) (x : Attempt) : Outcome × Encounter := resolve o x.aim x.half x.effect x.encounter

/-- Why a scribe refuses what an attempt gives it. -/
def Attempt.unwritten? (x : Attempt) : Option Mishap :=
  match x.effect with
  | .impact targeting i => i.unwritten? x.encounter.world (aimed x.aim targeting)
  | .area .. | .save .. => none

/-- What an attempt gives to a scribe suits it and is within its reach. -/
def Attempt.Writable (x : Attempt) : Prop :=
  match x.effect with
  | .impact targeting i => i.Writable x.encounter.world (aimed x.aim targeting)
  | .area .. | .save .. => True

/-- What goes wrong in an attempt. -/
def Attempt.mishap? (x : Attempt) : Option Mishap := (x.effect.mishap? x.encounter.cup).or x.unwritten?

theorem Attempt.mishap?_of_writable {x : Attempt} (writable : x.Writable) :
    x.mishap? = x.effect.mishap? x.encounter.cup := by
  obtain ⟨aim, half, effect, e⟩ := x
  cases effect with
  | impact targeting i =>
    have written : Attempt.unwritten? ⟨aim, half, .impact targeting i, e⟩ = none := Impact.unwritten?_eq_none writable
    rw [mishap?, written, Option.or_none]
  | area targeting region effects => rfl
  | save targeting s onSuccess onFailure => rfl

/-- What is tried in a step for each item in order. -/
def along {α β γ : Type} (step : α → Encounter → β × Encounter) (tried : α → Encounter → List γ) :
    List α → Encounter → List γ
  | [], _ => []
  | a :: as, e => tried a e ++ along step tried as (step a e).2

mutual

/-- **What is tried while an effect is resolved**: the effect itself, and then what it nests. -/
def attempts (o : Options) (aim : Option (List String)) (half : Bool) : Effect → Encounter → List Attempt
  | .impact targeting i, e => [⟨aim, half, .impact targeting i, e⟩]
  | .area targeting area effects, e => ⟨aim, half, .area targeting area effects, e⟩ ::
    match (inArea area).run e with
    | (.error _, _) => []
    | (.ok found, e) => attemptsOfAll o (some ((found.getD e.seats).map Target.id)) half effects e
  | .save targeting s onSuccess onFailure, e => ⟨aim, half, .save targeting s onSuccess onFailure, e⟩ ::
    match (targets o (aimed aim targeting)).run e with
    | (.error _, _) => []
    | (.ok found, e) =>
      along (branch o half s onSuccess onFailure) (fun t e =>
        let (roll, e) := rollSave t.combatant s e.rule e
        let aim := some [t.id]
        if !roll.any (·.saved) then attemptsOfAll o aim half onFailure e
        else if onSuccess.isEmpty then
          along (fun i e => guarded i.kind (strike o true (aimed aim none) i) e)
            (fun i e => [⟨aim, true, .impact none i, e⟩]) (reduced s onFailure) e
        else attemptsOfAll o aim half onSuccess e) found e

/-- What is tried while effects are resolved in order. -/
def attemptsOfAll (o : Options) (aim : Option (List String)) (half : Bool) : List Effect → Encounter → List Attempt
  | [], _ => []
  | effect :: effects, e =>
    attempts o aim half effect e ++ attemptsOfAll o aim half effects (resolve o aim half effect e).2

end

/-- **How an attempt ends.**  With a mishap it fails for that reason, and nothing but dice, random choices and the log
is any different; without one its outcome is of its own kind and no failure. -/
structure Ends (o : Options) (x : Attempt) : Prop where
  failed : ∀ m, x.mishap? = some m → (x.run o).1 = .failed x.effect.kind m.message ∧ Unharmed x.encounter (x.run o).2
  own : x.mishap? = none → (x.run o).1.kind = x.effect.kind ∧ ¬IsFailed (x.run o).1

/-- A guarded step that fails reports the failure and does nothing else. -/
theorem guarded_failed (kind : EffectKind) {d : Deed Outcome} {m : Mishap} {e f : Encounter}
    (ran : d.run e = (.error m, f)) : ∃ n, guarded kind d e = (.failed kind m.message, note n f) := by
  unfold guarded
  rw [ran]
  cases m <;> exact ⟨_, rfl⟩

theorem ends_of_plain (o : Options) {x : Attempt} (plain : Plain x.encounter) : Ends o x := by
  obtain ⟨aim, half, effect, e⟩ := x
  simp only at plain
  cases effect with
  | impact targeting i =>
    refine ⟨fun m mishap => ?_, fun fine => ?_⟩
    · obtain ⟨f, failed, cup, draws, rolled, journal, same⟩ : ∃ f,
          (strike o half (aimed aim targeting) i).run e = (.error m, f) ∧ Unharmed e f := by
        rcases Option.or_eq_some_iff.1 mishap with own | ⟨fine, unwritten⟩
        · exact strike_fails o half (aimed aim targeting) plain own
        · exact ⟨e, strike_unwritten o half (aimed aim targeting) plain fine unwritten, .refl e⟩
      obtain ⟨n, report⟩ := guarded_failed i.kind failed
      have ended : Attempt.run o ⟨aim, half, .impact targeting i, e⟩ = (.failed i.kind m.message, note n f) := by
        rw [Attempt.run, resolve, report]
      rw [ended, same]
      exact ⟨rfl, cup, draws, rolled, _, rfl⟩
    · obtain ⟨fine, written⟩ := Option.or_eq_none_iff.1 fine
      obtain ⟨outcome, f, answered, own⟩ := strike_answers o half (aimed aim targeting) plain fine written
      have ended : Attempt.run o ⟨aim, half, .impact targeting i, e⟩ = (outcome, f) := by
        rw [Attempt.run, resolve, guarded_of_run answered]
      rw [ended]
      exact own
  | area targeting area effects =>
    obtain ⟨found, f, ran, -⟩ := sure_inArea area e plain
    refine ⟨nofun, fun _ => ?_⟩
    rw [Attempt.run, resolve, ran]
    exact ⟨rfl, not_false⟩
  | save targeting s onSuccess onFailure =>
    obtain ⟨found, draws, ran⟩ := targets_found o (aimed aim targeting) plain
    refine ⟨nofun, fun _ => ?_⟩
    rw [Attempt.run, resolve_save, ran]
    exact ⟨rfl, not_false⟩

/-- The outcome of an attempt is of the kind of its effect, failed or not. -/
theorem Ends.kind {o : Options} {x : Attempt} (ends : Ends o x) : (x.run o).1.kind = x.effect.kind := by
  cases mishap : x.mishap? with
  | none => exact (ends.own mishap).1
  | some m =>
    rw [(ends.failed m mishap).1]
    rfl

/-! ## Every outcome is that of an attempt -/

/-- The attempts have the outcomes and all that these nest, in order, and were made in a plain world. -/
structure Covers (o : Options) (xs : List Attempt) (os : List Outcome) : Prop where
  outcomes : nodesOfAll os = xs.map fun x => (x.run o).1
  plain : ∀ x ∈ xs, Plain x.encounter

theorem Covers.nil (o : Options) : Covers o [] [] where
  outcomes := by simp only [nodesOfAll, List.map_nil]
  plain := List.forall_mem_nil _

theorem Covers.append {o : Options} {xs ys : List Attempt} {os ps : List Outcome} (first : Covers o xs os)
    (second : Covers o ys ps) : Covers o (xs ++ ys) (os ++ ps) where
  outcomes := by rw [Outcome.nodesOfAll_append, first.outcomes, second.outcomes, List.map_append]
  plain := List.forall_mem_append.2 ⟨first.plain, second.plain⟩

/-- An attempt with the attempts that are made because of it. -/
theorem Covers.cons {o : Options} {x : Attempt} {xs : List Attempt} {os : List Outcome} (plain : Plain x.encounter)
    (nested : Covers o xs os) (nests : nodes (x.run o).1 = (x.run o).1 :: nodesOfAll os) :
    Covers o (x :: xs) [(x.run o).1] where
  outcomes := by
    rw [nodesOfAll, nodesOfAll, List.append_nil, nests, nested.outcomes, List.map_cons]
  plain := List.forall_mem_cons.2 ⟨plain, nested.plain⟩

theorem covers_impact (o : Options) (aim : Option (List String)) (half : Bool) (targeting : Option Targeting)
    (i : Impact) {e : Encounter} (plain : Plain e) :
    Covers o [⟨aim, half, .impact targeting i, e⟩] [(resolve o aim half (.impact targeting i) e).1] := by
  refine .cons plain (.nil o) ?_
  -- The outcome nests nothing, for its kind is neither that of an area nor that of a save.
  have kind := (ends_of_plain o (x := ⟨aim, half, .impact targeting i, e⟩) plain).kind
  simp only [Effect.kind] at kind
  generalize (Attempt.run o ⟨aim, half, .impact targeting i, e⟩).1 = outcome at kind
  rw [nodesOfAll]
  cases outcome with
  | area ids os => cases i <;> cases kind
  | save branches => cases i <;> cases kind
  | _ => simp [nodes]

theorem covers_along {o : Options} {α β : Type} {step : α → Encounter → β × Encounter}
    {tried : α → Encounter → List Attempt} {outs : β → List Outcome}
    (each : ∀ a e, Plain e → Covers o (tried a e) (outs (step a e).1) ∧ Plain (step a e).2) :
    ∀ (as : List α) (e : Encounter), Plain e → Covers o (along step tried as e) ((forEach step as e).1.flatMap outs)
  | [], _, _ => .nil o
  | a :: as, e, plain => by
    obtain ⟨first, plain⟩ := each a e plain
    simp only [along, forEach, List.flatMap_cons]
    exact first.append (covers_along each as _ plain)

theorem covers_strikeAll (o : Options) (aim : Option (List String)) (half : Bool) :
    ∀ (is : List Impact) (e : Encounter), Plain e →
      Covers o (along (fun i e => guarded i.kind (strike o half (aimed aim none) i) e)
        (fun i e => [⟨aim, half, .impact none i, e⟩]) is e) (strikeAll o aim half is e).1
  | [], _, _ => .nil o
  | i :: is, e, plain => by
    have first := covers_impact o aim half none i plain
    have after : Plain (guarded i.kind (strike o half (aimed aim none) i) e).2 :=
      plain.of_backdrop (backdrop_guarded i.kind (leaves_strike o half _ i) e)
    rw [resolve] at first
    exact first.append (covers_strikeAll o aim half is _ after)

/-- Resolving effects leaves a plain world plain. -/
theorem Plain.resolveAll {e : Encounter} (plain : Plain e) (o : Options) (aim : Option (List String)) (half : Bool)
    (effects : List Effect) : Plain (resolveAll o aim half effects e).2 :=
  plain.of_backdrop (resolveAll_traced (traced_backdrop o) effects aim half e)

mutual

/-- **Every outcome of an effect, at any depth, is that of the attempt in its place.** -/
theorem covers_attempts (o : Options) : ∀ (effect : Effect) (aim : Option (List String)) (half : Bool) (e : Encounter),
    Plain e → Covers o (attempts o aim half effect e) [(resolve o aim half effect e).1]
  | .impact targeting i, aim, half, e, plain => by
    rw [attempts]
    exact covers_impact o aim half targeting i plain
  | .area targeting area effects, aim, half, e, plain => by
    obtain ⟨found, f, ran, plain'⟩ := sure_inArea area e plain
    rw [attempts, ran]
    refine .cons plain (covers_attemptsOfAll o effects _ half f plain') ?_
    rw [Attempt.run, resolve, ran]
    rfl
  | .save targeting s onSuccess onFailure, aim, half, e, plain => by
    obtain ⟨found, draws, ran⟩ := targets_found o (aimed aim targeting) plain
    rw [attempts, ran]
    refine .cons plain (@covers_along o Target _ (branch o half s onSuccess onFailure) _ Prod.snd
      (fun t e plain => ?_) found { e with draws := draws } plain) ?_
    · rcases rolls : rollSave t.combatant s e.rule e with ⟨roll, g⟩
      have rolled : Plain g := by
        have same := scene_rollSave t.combatant s e.rule e
        rw [rolls] at same
        exact plain.of_backdrop (backdrop_of_scene same)
      -- The roll decides which of the three branches is resolved, at the table that it leaves.
      cases saved : roll.any (·.saved) with
      | false =>
        rw [branch_failed rolls half onFailure onSuccess saved]
        simp only [saved, Bool.not_false, if_true]
        exact ⟨covers_attemptsOfAll o onFailure _ half g rolled, rolled.resolveAll o _ half onFailure⟩
      | true =>
        cases onSuccess with
        | nil =>
          rw [branch_left rolls half onFailure saved]
          simp only [saved, Bool.not_true, Bool.false_eq_true, if_false, List.isEmpty_nil, if_true]
          exact ⟨covers_strikeAll o _ true (reduced s onFailure) g rolled,
            rolled.of_backdrop ((traced_backdrop o).strikeAll _ true (reduced s onFailure) g)⟩
        | cons effect effects =>
          rw [branch_succeeded rolls half onFailure saved (List.cons_ne_nil effect effects)]
          simp only [saved, Bool.not_true, Bool.false_eq_true, if_false, List.isEmpty_cons]
          exact ⟨covers_attemptsOfAll o (effect :: effects) _ half g rolled,
            rolled.resolveAll o _ half (effect :: effects)⟩
    · rw [Attempt.run, resolve_save, ran]
      simp only [nodes, nodesOfBranches_eq]

theorem covers_attemptsOfAll (o : Options) : ∀ (effects : List Effect) (aim : Option (List String)) (half : Bool)
    (e : Encounter), Plain e → Covers o (attemptsOfAll o aim half effects e) (resolveAll o aim half effects e).1
  | [], _, _, _, _ => by
    rw [attemptsOfAll, resolveAll]
    exact .nil o
  | effect :: effects, aim, half, e, plain => by
    have after : Plain (resolve o aim half effect e).2 :=
      plain.of_backdrop (resolve_traced (traced_backdrop o) effect aim half e)
    rw [attemptsOfAll, resolveAll]
    exact (covers_attempts o effect aim half e plain).append (covers_attemptsOfAll o effects aim half _ after)

end

/-- A ritual that calls nobody, deals damage that is no number, and heals. -/
def ritual : Effect :=
  .area none none
    [.impact none (.summon .null 1 .null), .impact none (.damage (.rolled "1/0") none none),
      .impact none (.healing (.rolled "1d4"))]

/-- A custom effect that carries this. -/
def chest (content : Json) : Effect := .impact none (.custom ⟨[("content", content)], by simp, by simp⟩ .empty)

theorem resolve_chest {content : Json} (deep : 252 < content.depth) :
    (resolve .none none false (chest content) skirmish).1 =
      .failed .custom "Circular reference detected (depth exceeded)" := by
  have written : Effect.writeImpact .full none (.custom ⟨[("content", content)], by simp, by simp⟩ .empty) =
      .obj [("targets", .null), ("type", .str "custom"), ("payload", .obj [("content", content)])] := rfl
  have refused : skirmish.world.dumper.refusal? (.obj [("targets", .null), ("type", .str "custom"),
      ("payload", .obj [("content", content)])]) = some "Circular reference detected (depth exceeded)" := by
    refine if_neg ?_
    simp only [Json.depth, Json.depthOfEntries]
    omega
  rw [chest, resolve, aimed, guarded, strike, Act.run_bind, written, run_dump, refused]
  rfl

end Encounter
end Bestiary
