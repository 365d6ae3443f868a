import Bestiary.Proofs.Encounter.Replay
/-!
# Reach — whom nested effects get at

Effects that an area or a save aims at some ids record and touch nobody else, however deep they nest (`Confined`), up to
the next area.  An area finds whoever is in it, whatever it is aimed at, and the effects it nests are aimed at those.
So far, and from there on again, aims are binding (`resolve_confines`).
-/
namespace Bestiary

namespace Outcome

mutual

/-- The ids of all targets that an outcome records, at any depth. -/
def recorded : Outcome → List String
  | .damage _ lines => lines.map (·.target)
  | .healing lines => lines.map (·.target)
  | .condition _ lines => lines.map (·.target)
  | .movement lines => lines.map (·.target)
  | .area ids effects => ids ++ recordedByAll effects
  | .save branches => recordedByBranches branches
  | .failed _ _ | .summon _ _ | .custom _ => []

/-- The ids of all targets that outcomes record, at any depth. -/
def recordedByAll : List Outcome → List String
  | [] => []
  | o :: os => recorded o ++ recordedByAll os

/-- The ids of all targets that branches record, at any depth. -/
def recordedByBranches : List (SaveLine × List Outcome) → List String
  | [] => []
  | (line, os) :: rest => line.target :: recordedByAll os ++ recordedByBranches rest

end

mutual

/-- The ids of the targets of all areas in an outcome, at any depth. -/
def inAreas : Outcome → List String
  | .area ids effects => ids ++ inAreasOfAll effects
  | .save branches => inAreasOfBranches branches
  | _ => []

/-- The ids of the targets of all areas in outcomes, at any depth. -/
def inAreasOfAll : List Outcome → List String
  | [] => []
  | o :: os => inAreas o ++ inAreasOfAll os

/-- The ids of the targets of all areas in branches, at any depth. -/
def inAreasOfBranches : List (SaveLine × List Outcome) → List String
  | [] => []
  | (_, os) :: rest => inAreasOfAll os ++ inAreasOfBranches rest

end

/-- The branches of a save. -/
def branches : Outcome → List (SaveLine × List Outcome)
  | .save branches => branches
  | _ => []

mutual

/-- **What an outcome records below an aim**: those aimed at; below an area, those in it; below a save, the one who
rolled it. -/
def Within (ids : List String) : Outcome → Prop
  | .area own effects => AllWithin own effects
  | .save branches => BranchesWithin ids branches
  | outcome => ∀ id ∈ outcome.recorded, id ∈ ids

/-- What outcomes record below an aim. -/
def AllWithin (ids : List String) : List Outcome → Prop
  | [] => True
  | o :: os => Within ids o ∧ AllWithin ids os

/-- What branches record below an aim. -/
def BranchesWithin (ids : List String) : List (SaveLine × List Outcome) → Prop
  | [] => True
  | (line, os) :: rest => (line.target ∈ ids ∧ AllWithin [line.target] os) ∧ BranchesWithin ids rest

end

theorem inAreasOfAll_append : ∀ xs ys : List Outcome, inAreasOfAll (xs ++ ys) = inAreasOfAll xs ++ inAreasOfAll ys
  | [], _ => rfl
  | x :: xs, ys => by
    rw [List.cons_append, inAreasOfAll, inAreasOfAll, inAreasOfAll_append xs ys, List.append_assoc]

theorem allWithin_append {ids : List String} : ∀ xs ys : List Outcome,
    AllWithin ids (xs ++ ys) ↔ AllWithin ids xs ∧ AllWithin ids ys
  | [], _ => by simp [AllWithin]
  | x :: xs, ys => by rw [List.cons_append, AllWithin, AllWithin, allWithin_append xs ys, and_assoc]

mutual

/-- Whoever an outcome records was aimed at or is in an area. -/
theorem recorded_within : ∀ (o : Outcome) {ids : List String}, Within ids o →
    ∀ id ∈ recorded o, id ∈ ids ∨ id ∈ inAreas o
  | .area own os, _, h, id, hid => by
    rw [recorded, List.mem_append] at hid
    rw [Within] at h
    rw [inAreas, List.mem_append]
    exact .inr (hid.elim .inl (recordedByAll_within os h id))
  | .save branches, ids, h, id, hid => by
    rw [recorded] at hid
    rw [Within] at h
    rw [inAreas]
    exact recordedByBranches_within branches h id hid
  | .damage .., _, h, id, hid | .healing _, _, h, id, hid | .condition .., _, h, id, hid | .movement _, _, h, id, hid
  | .failed .., _, h, id, hid | .summon .., _, h, id, hid | .custom _, _, h, id, hid => .inl (h id hid)

theorem recordedByAll_within : ∀ (os : List Outcome) {ids : List String}, AllWithin ids os →
    ∀ id ∈ recordedByAll os, id ∈ ids ∨ id ∈ inAreasOfAll os
  | [], _, _, _, hid => nomatch hid
  | o :: os, ids, h, id, hid => by
    rw [AllWithin] at h
    rw [recordedByAll, List.mem_append] at hid
    rw [inAreasOfAll, List.mem_append]
    rcases hid with hid | hid
    · exact (recorded_within o h.1 id hid).imp_right .inl
    · exact (recordedByAll_within os h.2 id hid).imp_right .inr

theorem recordedByBranches_within : ∀ (branches : List (SaveLine × List Outcome)) {ids : List String},
    BranchesWithin ids branches → ∀ id ∈ recordedByBranches branches, id ∈ ids ∨ id ∈ inAreasOfBranches branches
  | [], _, _, _, hid => nomatch hid
  | (line, os) :: rest, ids, h, id, hid => by
    rw [BranchesWithin] at h
    obtain ⟨⟨aimed, branch⟩, others⟩ := h
    rw [recordedByBranches, List.mem_append, List.mem_cons] at hid
    rw [inAreasOfBranches, List.mem_append]
    rcases hid with (rfl | hid) | hid
    · exact .inl aimed
    · rcases recordedByAll_within os branch id hid with own | found
      · cases List.mem_singleton.1 own
        exact .inl aimed
      · exact .inr (.inl found)
    · exact (recordedByBranches_within rest others id hid).imp_right .inr

end

end Outcome

namespace Encounter

open Outcome

/-- **Nobody but these is touched**: whoever has another id stands where they stood, with all that is theirs
unchanged. -/
def Spares (among : String → Prop) (e f : Encounter) : Prop :=
  ∀ (n : Nat) (c : Combatant), e.roster[n]? = some c → ¬among c.id → f.roster[n]? = some c

namespace Spares

variable {among wider : String → Prop} {e f g : Encounter}

theorem of_roster (same : f.roster = e.roster) : Spares among e f := fun n c hc _ => by rw [same, hc]

theorem trans (h : Spares among e f) (k : Spares among f g) : Spares among e g :=
  fun n c hc other => k n c (h n c hc other) other

theorem mono (h : Spares among e f) (more : ∀ id, among id → wider id) : Spares wider e f :=
  fun n c hc other => h n c hc fun own => other (more c.id own)

/-- A change at the place of a target touches nobody with another id. -/
theorem alter {t : Target} (seated : Seated e t) (hit : among t.id) (change : Combatant → Combatant) :
    Spares among e (e.alter t change) := by
  intro n c hc other
  obtain ⟨m, hm, at_m⟩ := seated
  have elsewhere : m ≠ n := by
    rintro rfl
    rw [ids, List.getElem?_map, hc] at at_m
    exact other (Option.some.inj at_m ▸ hit)
  simp only [Encounter.alter, hm]
  rw [List.getElem?_modify, hc]
  simp [elsewhere]

end Spares

/-! ## Steps at some targets -/

/-- **A step that touches nobody but these and answers what it should**, as long as the backdrop is that of `e₀`. -/
def Aims {α : Type} (e₀ : Encounter) (among : String → Prop) (d : Deed α) (Q : α → Prop) : Prop :=
  ∀ e, e.backdrop = e₀.backdrop →
    (d.run e).2.backdrop = e₀.backdrop ∧ Spares among e (d.run e).2 ∧ ∀ a, (d.run e).1 = .ok a → Q a

namespace Aims

variable {α β : Type} {e₀ : Encounter} {among : String → Prop}

theorem pure {a : α} {Q : α → Prop} (h : Q a) : Aims e₀ among (Act.pure a : Deed α) Q :=
  fun _ same => ⟨same, .of_roster rfl, fun _ eq => by cases eq; exact h⟩

theorem fail (m : Mishap) {Q : α → Prop} : Aims e₀ among (Act.fail m : Deed α) Q :=
  fun _ same => ⟨same, .of_roster rfl, nofun⟩

theorem mono {d : Deed α} {P Q : α → Prop} (h : Aims e₀ among d P) (more : ∀ a, P a → Q a) : Aims e₀ among d Q :=
  fun e same => ⟨(h e same).1, (h e same).2.1, fun a eq => more a ((h e same).2.2 a eq)⟩

theorem leaves {d : Deed α} (h : Leaves scene d) : Aims e₀ among d fun _ => True :=
  fun e same => ⟨(backdrop_of_scene (h e)).trans same, .of_roster (roster_of_scene (h e)), fun _ _ => trivial⟩

theorem bind {d : Deed α} {next : α → Deed β} {P : α → Prop} {Q : β → Prop} (first : Aims e₀ among d P)
    (second : ∀ a, P a → Aims e₀ among (next a) Q) : Aims e₀ among (d >>= next) Q := by
  intro e same
  obtain ⟨backdrop, spared, answers⟩ := first e same
  rw [Act.run_bind]
  split
  · rename_i a f run
    rw [run] at backdrop spared answers
    obtain ⟨backdrop', spared', answers'⟩ := second a (answers a rfl) f backdrop
    exact ⟨backdrop', spared.trans spared', answers'⟩
  · rename_i m f run
    rw [run] at backdrop spared
    exact ⟨backdrop, spared, nofun⟩

theorem each {d : α → Deed β} {Q : β → Prop} : ∀ {as : List α}, (∀ a ∈ as, Aims e₀ among (d a) Q) →
    Aims e₀ among (Act.each d as) fun bs => ∀ b ∈ bs, Q b
  | [], _ => pure (by simp)
  | a :: as, steps => by
    refine bind (steps a List.mem_cons_self) fun b hb => ?_
    refine bind (each fun x hx => steps x (List.mem_cons_of_mem _ hx)) fun bs hbs => ?_
    exact pure (List.forall_mem_cons.2 ⟨hb, hbs⟩)

end Aims

/-- Those whom a targeting by ids finds have such an id and are seated. -/
theorem aims_targets (o : Options) (names : List String) (e₀ : Encounter) (among : String → Prop) :
    Aims e₀ among (targets o (some (.specific names))) fun ts => ∀ t ∈ ts, Seated e₀ t ∧ t.id ∈ names := by
  intro e same
  refine ⟨same, .of_roster rfl, fun ts found => ?_⟩
  cases found
  intro t ht
  obtain ⟨seat, named⟩ := List.mem_filter.1 ht
  have ids := ids_of_undisturbed (undisturbed_of_backdrop same)
  exact ⟨(seated_of_mem_seats seat).transfer ids.symm, List.contains_iff_mem.1 named⟩

section Strikes

variable {e₀ : Encounter} {among : String → Prop} {t : Target} (seated : Seated e₀ t) (hit : among t.id)
include seated hit

theorem spares_alter {e : Encounter} (same : e.backdrop = e₀.backdrop) (change : Combatant → Combatant) (n : Notice) :
    Spares among e (note n (e.alter t change)) :=
  .alter (seated.transfer (ids_of_undisturbed (undisturbed_of_backdrop same))) hit change

theorem aims_damage (n : Int) (kind : Option String) (saved : Option Bool) :
    Aims e₀ among (damage t n kind saved) fun l => l.target = t.id := by
  intro e same
  refine ⟨(leaves_damage t n kind saved e).trans same, ?_⟩
  simp only [damage, Act.run]
  split
  · exact ⟨.of_roster rfl, fun _ eq => by cases eq⟩
  · exact ⟨spares_alter seated hit same _ _, fun l eq => by cases eq; rfl⟩

theorem aims_heal (n : Int) : Aims e₀ among (heal t n) fun l => l.target = t.id := by
  intro e same
  refine ⟨(leaves_heal t n e).trans same, ?_⟩
  simp only [heal, Act.run]
  split
  · exact ⟨.of_roster rfl, fun _ eq => by cases eq⟩
  · exact ⟨spares_alter seated hit same _ _, fun l eq => by cases eq; rfl⟩

theorem aims_setCondition (condition : AppliedCondition) :
    Aims e₀ among (setCondition t condition) fun _ => True := by
  intro e same
  refine ⟨(leaves_setCondition t condition e).trans same, ?_⟩
  simp only [setCondition, Act.run]
  split
  · exact ⟨.of_roster rfl, fun _ eq => by cases eq⟩
  · split
    · exact ⟨.of_roster rfl, fun _ _ => trivial⟩
    · exact ⟨spares_alter seated hit same _ _, fun _ _ => trivial⟩

theorem aims_strikeDamage (n : Int) (kind : Option String) (save : Option Save) (half : Bool) :
    Aims e₀ among (strikeDamage n kind save half t) fun l => l.target = t.id :=
  .bind (.leaves (leaves_rolled t save)) fun saved _ => aims_damage seated hit _ kind saved

theorem aims_strikeCondition (condition : Label) (duration : Option Nat) (save : Option Save) :
    Aims e₀ among (strikeCondition condition duration save t) fun l => l.target = t.id := by
  refine .bind (.leaves (leaves_rolled t save)) fun saved _ => ?_
  dsimp only
  split
  · exact .pure rfl
  · exact .bind (aims_setCondition seated hit _) fun _ _ => .pure rfl

end Strikes

theorem aims_strikeMovement {e₀ : Encounter} {among : String → Prop} (distance : Nat) (direction : Option String)
    (save : Option Save) (t : Target) :
    Aims e₀ among (strikeMovement distance direction save t) fun l => l.target = t.id := by
  refine .bind (.leaves (leaves_rolled t save)) fun saved _ => ?_
  dsimp only
  split
  · exact .pure rfl
  · exact .bind (.leaves (leaves_move t _ direction)) fun _ _ => .pure rfl

/-- **An impact that is aimed at ids records and touches nobody else.** -/
theorem aims_strike (o : Options) (half : Bool) (names : List String) (i : Impact) (e₀ : Encounter) :
    Aims e₀ (· ∈ names) (strike o half (some (.specific names)) i) (Within names) := by
  -- Each of the targets found has one of the ids, and so has the line about it.
  have atTargets {α : Type} {step : Target → Deed α} {target : α → String} {ts : List Target}
      (found : ∀ t ∈ ts, Seated e₀ t ∧ t.id ∈ names)
      (own : ∀ t, Seated e₀ t → t.id ∈ names → Aims e₀ (· ∈ names) (step t) fun l => target l = t.id) :
      Aims e₀ (· ∈ names) (Act.each step ts) fun lines => ∀ id ∈ lines.map target, id ∈ names := by
    have each := Aims.each fun t ht => (own t (found t ht).1 (found t ht).2).mono fun l eq => eq ▸ (found t ht).2
    exact each.mono fun lines named id hid => by
      obtain ⟨l, hl, rfl⟩ := List.mem_map.1 hid
      exact named l hl
  have aim := aims_targets o names e₀ (· ∈ names)
  cases i with
  | damage quantity kind save =>
    refine .bind aim fun ts found => .bind (.leaves (leaves_amount quantity)) fun n _ => ?_
    refine .bind (atTargets found fun t seated hit => aims_strikeDamage seated hit n kind save half) fun lines own => ?_
    exact .pure own
  | healing quantity =>
    refine .bind aim fun ts found => .bind (.leaves (leaves_amount quantity)) fun n _ => ?_
    exact .bind (atTargets found fun t seated hit => aims_heal seated hit n) fun lines own => .pure own
  | condition condition duration save =>
    refine .bind aim fun ts found => ?_
    refine .bind (atTargets found fun t seated hit => aims_strikeCondition seated hit condition duration save) ?_
    exact fun lines own => .pure own
  | movement distance direction save =>
    refine .bind aim fun ts found => ?_
    refine .bind (atTargets found fun t _ _ => aims_strikeMovement distance direction save t) fun lines own => ?_
    exact .pure own
  | summon creature count position =>
    simp only [strike]
    split
    · exact .fail _
    · have summoned := Leaves.each (List.range count) fun _ => leaves_summon creature position
      exact .bind (.leaves summoned) fun _ _ => .pure (List.forall_mem_nil _)
  | custom payload extras => exact .bind (.leaves (leaves_dump _)) fun _ _ => .pure (List.forall_mem_nil _)

/-! ## Nested effects -/

/-- **What effects that were aimed at these ids record and touch**: those with the ids, and from an area on those in
it. -/
structure Confined (ids : List String) (e : Encounter) (os : List Outcome) (f : Encounter) : Prop where
  within : AllWithin ids os
  spared : Spares (fun id => id ∈ ids ∨ id ∈ inAreasOfAll os) e f

namespace Confined

variable {ids : List String} {e f g : Encounter} {os xs ys : List Outcome}

theorem nothing (same : f.roster = e.roster) : Confined ids e [] f := ⟨trivial, .of_roster same⟩

theorem andThen (h : Confined ids e xs f) (k : Confined ids f ys g) : Confined ids e (xs ++ ys) g where
  within := (allWithin_append xs ys).2 ⟨h.within, k.within⟩
  spared := by
    rw [inAreasOfAll_append]
    exact (h.spared.mono fun id => .imp_right (List.mem_append_left _)).trans
      (k.spared.mono fun id => .imp_right (List.mem_append_right _))

theorem quietly (first : f.roster = e.roster) (h : Confined ids f os g) : Confined ids e os g :=
  ⟨h.within, .trans (.of_roster first) h.spared⟩

theorem of_spares {o : Outcome} (within : Within ids o) (spared : Spares (· ∈ ids) e f) : Confined ids e [o] f :=
  ⟨⟨within, trivial⟩, spared.mono fun _ => .inl⟩

theorem failed {kind : EffectKind} {message : String} (same : f.roster = e.roster) :
    Confined ids e [.failed kind message] f :=
  ⟨⟨nofun, trivial⟩, .of_roster same⟩

end Confined

/-- Where no area is among the effects, the aim is binding at every depth. -/
theorem Confined.binding {ids : List String} {e f : Encounter} {os : List Outcome} (h : Confined ids e os f)
    (none : inAreasOfAll os = []) : (∀ id ∈ recordedByAll os, id ∈ ids) ∧ Spares (· ∈ ids) e f := by
  have own : ∀ id, id ∈ ids ∨ id ∈ inAreasOfAll os → id ∈ ids := fun id => by simp [none]
  exact ⟨fun id hid => own id (recordedByAll_within os h.within id hid), h.spared.mono own⟩

theorem guarded_confined {ids : List String} (kind : EffectKind) {d : Deed Outcome} {e : Encounter}
    (h : Aims e (· ∈ ids) d (Within ids)) : Confined ids e [(guarded kind d e).1] (guarded kind d e).2 := by
  obtain ⟨-, spared, answers⟩ := h e rfl
  unfold guarded
  split
  · rename_i run
    rw [run] at spared answers
    exact .of_spares (answers _ rfl) spared
  · rename_i run
    rw [run] at spared
    exact .of_spares nofun (spared.trans (.of_roster rfl))
  · rename_i run
    rw [run] at spared
    exact .of_spares nofun (spared.trans (.of_roster rfl))

theorem strikeAll_confined (o : Options) (ids : List String) (half : Bool) : ∀ (is : List Impact) (e : Encounter),
    Confined ids e (strikeAll o (some ids) half is e).1 (strikeAll o (some ids) half is e).2
  | [], _ => .nothing rfl
  | i :: is, e => by
    simp only [strikeAll]
    exact (guarded_confined i.kind (aims_strike o half ids i e)).andThen (strikeAll_confined o ids half is _)

theorem branch_confined {o : Options} {half : Bool} {onSuccess onFailure : List Effect} (s : Save) (t : Target)
    (e : Encounter)
    (success : ∀ e, Confined [t.id] e (resolveAll o (some [t.id]) half onSuccess e).1
      (resolveAll o (some [t.id]) half onSuccess e).2)
    (failure : ∀ e, Confined [t.id] e (resolveAll o (some [t.id]) half onFailure e).1
      (resolveAll o (some [t.id]) half onFailure e).2) :
    Confined [t.id] e (branch o half s onSuccess onFailure t e).1.2 (branch o half s onSuccess onFailure t e).2 := by
  refine .quietly (roster_of_scene (scene_rollSave t.combatant s e.rule e)) ?_
  dsimp only [branch]
  split
  · exact failure _
  · split
    · exact strikeAll_confined o [t.id] true (reduced s onFailure) _
    · exact success _

/-- A save that was aimed at some ids, if each branch is confined to its target. -/
theorem forEach_confined {ids : List String} {step : Target → Encounter → (SaveLine × List Outcome) × Encounter}
    (own : ∀ t e, (step t e).1.1.target = t.id ∧ Confined [t.id] e (step t e).1.2 (step t e).2) :
    ∀ (found : List Target) (e : Encounter), (∀ t ∈ found, t.id ∈ ids) →
      Confined ids e [.save (forEach step found e).1] (forEach step found e).2
  | [], e, _ => ⟨⟨trivial, trivial⟩, .of_roster rfl⟩
  | t :: found, e, aimed => by
    obtain ⟨target, first⟩ := own t e
    have rest := forEach_confined own found (step t e).2 fun x hx => aimed x (List.mem_cons_of_mem _ hx)
    have hit : t.id ∈ ids := aimed t List.mem_cons_self
    have only : ∀ id, id ∈ [t.id] → id ∈ ids := fun id own => List.mem_singleton.1 own ▸ hit
    simp only [forEach]
    refine ⟨⟨⟨⟨target ▸ hit, target ▸ first.within⟩, rest.within.1⟩, trivial⟩, ?_⟩
    have areas : inAreasOfAll [.save ((step t e).1 :: (forEach step found (step t e).2).1)] =
        inAreasOfAll (step t e).1.2 ++ inAreasOfAll [.save (forEach step found (step t e).2).1] := by
      simp [inAreasOfAll, inAreas, inAreasOfBranches]
    rw [areas]
    exact (first.spared.mono fun id => .imp (only id) (List.mem_append_left _)).trans
      (rest.spared.mono fun id => .imp_right (List.mem_append_right _))

mutual

/-- An effect that was aimed at some ids is confined to them. -/
theorem resolve_confined (o : Options) : ∀ (effect : Effect) (ids : List String) (half : Bool) (e : Encounter),
    Confined ids e [(resolve o (some ids) half effect e).1] (resolve o (some ids) half effect e).2
  | .impact targeting i, ids, half, e => by
    rw [resolve]
    exact guarded_confined i.kind (aims_strike o half ids i e)
  | .area _ region effects, ids, half, e => by
    rw [resolve]
    have stays := inArea_state region e
    split
    · rename_i mishap f failed
      rw [failed] at stays
      subst stays
      exact .failed rfl
    · rename_i found f hf
      rw [hf] at stays
      subst stays
      -- An area does not look at what it is aimed at, so whoever it gets at counts as in an area.
      have nested := resolveAll_confined o effects ((found.getD f.seats).map Target.id) half f
      refine ⟨⟨nested.within, trivial⟩, nested.spared.mono fun id reached => .inr ?_⟩
      rw [inAreasOfAll, inAreas, inAreasOfAll, List.append_nil]
      exact List.mem_append.2 reached
  | .save targeting s onSuccess onFailure, ids, half, e => by
    rw [resolve_save]
    obtain ⟨-, spared, answers⟩ := aims_targets o ids e (fun _ => False) e rfl
    have quiet := roster_of_scene (leaves_targets o (aimed (some ids) targeting) e)
    split
    · rename_i mishap f failed
      rw [failed] at quiet
      exact .failed quiet
    · rename_i found f hf
      rw [hf] at quiet
      have aimed : ∀ t ∈ found, t.id ∈ ids := fun t ht => (answers found (congrArg Prod.fst hf) t ht).2
      refine .quietly quiet (forEach_confined (fun t e => ⟨rfl, ?_⟩) found f aimed)
      exact branch_confined s t e (resolveAll_confined o onSuccess [t.id] half)
        (resolveAll_confined o onFailure [t.id] half)

/-- Effects that were aimed at some ids are confined to them. -/
theorem resolveAll_confined (o : Options) : ∀ (effects : List Effect) (ids : List String) (half : Bool)
    (e : Encounter),
    Confined ids e (resolveAll o (some ids) half effects e).1 (resolveAll o (some ids) half effects e).2
  | [], _, _, e => by
    rw [resolveAll]
    exact .nothing rfl
  | effect :: effects, ids, half, e => by
    rw [resolveAll]
    exact (resolve_confined o effect ids half e).andThen (resolveAll_confined o effects ids half _)

end

/-- **Aims are binding up to the next area.**  What an area nests records and touches only those in the area, and what a
save nests only the one who rolled it; where another area is nested, those in it are the ones who count below it.  So it
is for every area and every save, at whatever depth it stands itself. -/
theorem resolve_confines (o : Options) (aim : Option (List String)) (half : Bool) (targeting : Option Targeting)
    (e : Encounter) :
    (∀ region effects ids os f, resolve o aim half (.area targeting region effects) e = (.area ids os, f) →
      Confined ids e os f) ∧
    ∀ s onSuccess onFailure found now, (targets o (aimed aim targeting)).run e = (.ok found, now) →
      resolve o aim half (.save targeting s onSuccess onFailure) e =
        (.save (forEach (branch o half s onSuccess onFailure) found now).1,
          (forEach (branch o half s onSuccess onFailure) found now).2) ∧
      ∀ t before, (branch o half s onSuccess onFailure t before).1.1.target = t.id ∧
        Confined [t.id] before (branch o half s onSuccess onFailure t before).1.2
          (branch o half s onSuccess onFailure t before).2 := by
  constructor
  · intro region effects ids os f run
    rw [resolve] at run
    have stays := inArea_state region e
    split at run
    · cases run
    · rename_i found g hg
      rw [hg] at stays
      subst stays
      cases run
      exact resolveAll_confined o effects _ half g
  · intro s onSuccess onFailure found now aimed
    refine ⟨?_, fun t before => ⟨rfl, ?_⟩⟩
    · rw [resolve_save, aimed]
    · exact branch_confined s t before (resolveAll_confined o onSuccess [t.id] half)
        (resolveAll_confined o onFailure [t.id] half)

/-- A save to keep one's footing. -/
def footing : Save := { (default : Save) with ability := some .constitution, dc := some 12 }

/-- A gust that takes everyone around. -/
def gust : List Effect := [.area none none [.impact none (.damage (.fixed 5) none none)]]

/-- The knight of the skirmish, who does not save. -/
def knight : Target := ⟨some 0, fighter "knight" .player⟩

theorem resolve_confines_gust :
    Confined ["knight", "wolf"] skirmish [.healing [⟨"knight", 1⟩, ⟨"wolf", 1⟩]]
      (resolve .none none false (.area none none [.impact none (.healing (.fixed 1))]) skirmish).2 ∧
    Confined ["knight"] skirmish (branch .none false footing [] gust knight skirmish).1.2
      (branch .none false footing [] gust knight skirmish).2 :=
  ⟨(resolve_confines .none none false none skirmish).1 none [.impact none (.healing (.fixed 1))] _ _ _ rfl,
    (((resolve_confines .none none false (some (.specific ["knight"])) skirmish).2 footing [] gust [knight] skirmish
      rfl).2 knight skirmish).2⟩

/-- Only the knight rolls, but the area among the nested effects finds the wolf too, and the wolf is hurt. -/
theorem knight_rolls_wolf_suffers :
    let run := resolve .none none false (.save (some (.specific ["knight"])) footing [] gust) skirmish
    skirmish.ids.Nodup ∧
    run.1.branches.map (fun (line, os) => (line.target, recordedByAll os)) =
      [("knight", ["knight", "wolf", "knight", "wolf"])] ∧
    skirmish.roster[1]? = some (fighter "wolf" .monster) ∧
    run.2.roster[1]? = some { fighter "wolf" .monster with hp := 5 } ∧
    ¬Spares (· = "knight") skirmish run.2 := by
  refine ⟨by decide, by decide +kernel, rfl, by decide +kernel, fun spares => ?_⟩
  have stands := spares 1 (fighter "wolf" .monster) rfl (by decide)
  revert stands
  decide +kernel

end Encounter
end Bestiary
