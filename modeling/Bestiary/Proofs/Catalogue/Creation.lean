import Bestiary.Catalogue.Defaults
import Bestiary.Proofs.Catalogue.Exchange
import Bestiary.Proofs.Creature.Reload
import Bestiary.Proofs.Document.Copy
/-!
# Creation — what a creature made from a template has of it

A creature is made from a template by writing the template in the plain form and reading that as a creature, so it has
what is read of the copies of the actions, the maxima of the template and full pools (`Template.offspring?`,
`Template.yields_offspring`).  Its actions are those of the template if the plain form tells every extra key in them
(`Catalogue.create_copies`).  Templates and creatures are not bound by the same rules: a template can be stored of which
no creature can be made (`Catalogue.create_made_iff`).
-/
namespace Bestiary

open Intake (Reads Yields)
open Intake.Reads (Found)

/-! ## Recharges -/

/-- The charged recharge of an action that has a threshold. -/
def Action.binding? (a : Action) : Option Recharge := a.recharge.map fun threshold => ⟨a.id, threshold, true⟩

namespace Creature

/-- **The recharges that are added to others**: those of the actions that have none yet, one for an id. -/
def bindings (rs : List Recharge) (actions : List Action) : List Recharge :=
  ((actions.filterMap Action.binding?).filter fun r => r.action.text ∉ boundIds rs).eraseDupsBy
    fun r q => r.action.text == q.action.text

/-- **Reading binds the actions that have a threshold and no recharge yet**, after the recharges that are given. -/
theorem bind_eq : ∀ (actions : List Action) (rs : List Recharge), bind rs actions = rs ++ bindings rs actions
  | [], rs => by simp [bind, bindings]
  | a :: rest, rs => by
    rw [bind]
    cases given : a.recharge with
    | none =>
      have skipped : bindings rs (a :: rest) = bindings rs rest := by
        simp [bindings, Action.binding?, given]
      rw [skipped]
      exact bind_eq rest rs
    | some threshold =>
      have own : Action.binding? a = some ⟨a.id, threshold, true⟩ := by simp [Action.binding?, given]
      dsimp only
      by_cases known : a.id.text ∈ boundIds rs
      · have taken : (rs.any fun r => r.action.text == a.id.text) = true := by simpa [boundIds] using known
        have skipped : bindings rs (a :: rest) = bindings rs rest := by
          simp [bindings, own, known]
        rw [if_pos taken, skipped]
        exact bind_eq rest rs
      · have free : ¬(rs.any fun r => r.action.text == a.id.text) = true := by simpa [boundIds] using known
        have added : bindings rs (a :: rest) =
            ⟨a.id, threshold, true⟩ :: bindings (rs ++ [⟨a.id, threshold, true⟩]) rest := by
          rw [bindings, List.filterMap_cons_some own, List.filter_cons_of_pos (by simpa using known),
            List.eraseDupsBy_cons, List.filter_filter, bindings]
          refine congrArg (fun rs => _ :: List.eraseDupsBy _ rs) (List.filter_congr fun r _ => ?_)
          have ids : boundIds (rs ++ [⟨a.id, threshold, true⟩]) = boundIds rs ++ [a.id.text] := List.map_append
          simp [ids, and_comm]
        rw [if_neg free, bind_eq rest, added, List.append_assoc, List.singleton_append]

end Creature

/-! ## Fields that a template leaves out -/

namespace Intake.Reads

variable {α : Type} {read : Json → Intake α} {entries : Entries} {key : Key} {absent : α}

theorem Found.left (found : Found .plain entries key .null) : Reads (Intake.field entries key absent read) absent := by
  have gone : key.find? entries = none := found
  rw [Intake.field, Intake.made, gone]
  exact .pure absent

/-- A field that is written if there is a value is read as the value, or as the one for when it is absent. -/
theorem Found.getD {write : α → Json} {o : Option α} (found : Found .plain entries key ((o.map write).getD .null))
    (h : ∀ a, Reads (read (write a)) a) (shown : ∀ a, write a ≠ .null := by simp) :
    Reads (Intake.field entries key absent read) (o.getD absent) := by
  cases o with
  | none => exact found.left
  | some a => exact found.field (h a) (shown a)

theorem Found.natD {o : Option Nat} {absent : Nat} (found : Found .plain entries key (Json.ofNat? o)) :
    Reads (Intake.field entries key absent Intake.nat) (o.getD absent) := by
  have written : Json.ofNat? o = (o.map fun n => .int n).getD .null := by cases o <;> rfl
  rw [written] at found
  exact found.getD .nat

end Intake.Reads

/-! ## The creature -/

/-- The text as a name, if it is one. -/
def Name.ofText? (most : Nat) (s : String) : Option (Name most) :=
  if h : s ≠ "" ∧ s.length ≤ most then some ⟨s, h⟩ else none

theorem Intake.yields_name (most : Nat) (w : String) (s : Supply) :
    Yields (Intake.name most (.str w)) s (Name.ofText? most w) s := by
  refine Yields.of_eq (((Reads.text w).yields s).check _) ?_
  by_cases fits : w ≠ "" ∧ w.length ≤ most
  · simp [Name.ofText?, fits, Except.toOption]
  · simp [Name.ofText?, fits, Except.toOption]

namespace Supply

theorem minted_filled (s : Supply) : "gen-" ++ toString (s.minted + 1) ≠ "" := by
  simp [String.ext_iff]

/-- The id that is handed out next. -/
def nextId (s : Supply) : Label := ⟨"gen-" ++ toString (s.minted + 1), s.minted_filled⟩

/-- The supply after that. -/
def next (s : Supply) : Supply := { s with minted := s.minted + 1 }

end Supply

namespace Template

/-- The fields of a creature that a template gives, written in the plain form, and those that it leaves out. -/
def offspringParts (t : Template) : List (Key × Json) :=
  [(Field.name, .str t.name.text), (Field.description, .str t.description),
    (Field.maxLegendaryActions, Json.ofNat? t.maxLegendary), (Field.maxMythicActions, Json.ofNat? t.maxMythic),
    (Field.paragonPhases, Json.ofNat? t.paragonPhases), (Field.villainActionsPerRound, Json.ofNat? t.villainPerRound),
    (Field.rechargeAbilities, rechargesValue .plain t.recharges),
    (Field.actions, .arr (t.actions.map (Action.write .plain))), (Field.id, .null), (Field.kind, .null),
    (Field.remainingLegendaryActions, .null), (Field.remainingMythicActions, .null), (Field.mythicPhaseActive, .null),
    (Field.currentParagonPhase, .null), (Field.usedVillainActionsThisRound, .null), (Field.resistances, .null),
    (Field.immunities, .null), (Field.vulnerabilities, .null), (Field.actionHistory, .null)]

/-- The fields of a creature in the order in which a template gives them. -/
def offspringKeys : List Key :=
  [Field.name, Field.description, Field.maxLegendaryActions, Field.maxMythicActions, Field.paragonPhases,
    Field.villainActionsPerRound, Field.rechargeAbilities, Field.actions, Field.id, Field.kind,
    Field.remainingLegendaryActions, Field.remainingMythicActions, Field.mythicPhaseActive, Field.currentParagonPhase,
    Field.usedVillainActionsThisRound, Field.resistances, Field.immunities, Field.vulnerabilities, Field.actionHistory]

theorem creatureDocument_eq (t : Template) :
    Catalogue.creatureDocument t [] = .obj (Form.plain.entries t.offspringParts []) := by
  rfl

/-- The fields of the creature that is made from a template, with this id and name and these actions. -/
def offspringGiven (t : Template) (id : Label) (name : Name 200) (actions : List Action) : Creature.Given where
  id := id
  name := name
  side := .monster
  description := t.description
  actions := actions
  maxLegendary := t.maxLegendary.getD 0
  legendary := none
  maxMythic := t.maxMythic.getD 0
  mythic := none
  mythicActive := false
  paragonPhases := t.paragonPhases.getD 0
  paragonPhase := 0
  villainPerRound := t.villainPerRound.getD 0
  villainUsed := 0
  recharges := t.recharges.getD []
  resistances := .empty
  immunities := .empty
  vulnerabilities := .empty
  history := []

/-- **The creature that is made from a template**, if there is one: with the copies of its actions. -/
def offspring? (t : Template) (id : Label) : Option Creature :=
  (Name.ofText? 200 t.name.text).bind fun name => (t.actions.mapM Action.copy?).bind fun actions =>
    (Creature.normalize (t.offspringGiven id name actions)).toOption

theorem yields_given (t : Template) (s : Supply) :
    Yields (Creature.readGiven (Form.plain.entries t.offspringParts [])) s
      ((Name.ofText? 200 t.name.text).bind fun name =>
        (t.actions.mapM Action.copy?).map (t.offspringGiven s.nextId name)) s.next := by
  have found := Reads.found_bare .plain offspringKeys t.offspringParts (by decide) rfl
  have none_left : Reads (Intake.noExtras (Form.plain.entries t.offspringParts []) Creature.keys) () := by
    have own : Reads (Intake.noExtras (Form.plain.entries t.offspringParts []) offspringKeys) () :=
      .noExtras (by decide) rfl
    have same : Creature.keys.Perm offspringKeys := by decide
    unfold Intake.noExtras at own ⊢
    rw [Key.rest_perm same]
    exact own
  generalize Form.plain.entries t.offspringParts [] = entries at found none_left
  simp only [offspringParts, List.forall_mem_cons] at found
  obtain ⟨name_found, description_found, maxLegendary_found, maxMythic_found, phases_found, villain_found,
    recharges_found, actions_found, id_found, side_found, legendary_found, mythic_found, active_found, phase_found,
    used_found, resistances_found, immunities_found, vulnerabilities_found, history_found, -⟩ := found
  have id_read : Yields (Intake.id entries) s (some s.nextId) s.next := by
    have gone : Field.id.find? entries = none := id_found
    unfold Intake.id Intake.made
    rw [gone]
    exact ⟨_, rfl, rfl⟩
  have actions_read : Yields (Intake.list Action.read (.arr (t.actions.map (Action.write .plain)))) s.next
      (t.actions.mapM Action.copy?) s.next := .list fun a _ => a.yields_copy s.next
  refine Yields.of_eq (id_read.map Creature.Given.mk
    |>.seq (name_found.yields_required (Intake.yields_name 200 _ s.next))
    |>.seq (side_found.left.yields s.next)
    |>.seq ((description_found.field (.text _)).yields s.next)
    |>.seq (actions_found.yields_field actions_read)
    |>.seq (maxLegendary_found.natD.yields s.next)
    |>.seq ((legendary_found.optional (.pure none)).yields s.next)
    |>.seq (maxMythic_found.natD.yields s.next)
    |>.seq ((mythic_found.optional (.pure none)).yields s.next)
    |>.seq (active_found.left.yields s.next)
    |>.seq (phases_found.natD.yields s.next)
    |>.seq (phase_found.left.yields s.next)
    |>.seq (villain_found.natD.yields s.next)
    |>.seq (used_found.left.yields s.next)
    |>.seq ((recharges_found.getD (fun rs => .list fun r _ => r.reads_form .plain)).yields s.next)
    |>.seq (resistances_found.left.yields s.next)
    |>.seq (immunities_found.left.yields s.next)
    |>.seq (vulnerabilities_found.left.yields s.next)
    |>.seq (history_found.left.yields s.next)
    |>.seqLeft none_left) ?_
  cases Name.ofText? 200 t.name.text <;> cases t.actions.mapM Action.copy? <;> rfl

/-- **Reading what is written of a template as a creature comes to the creature that is made from it**, under a new id. -/
theorem yields_offspring (t : Template) (s : Supply) :
    Yields (Creature.read (Catalogue.creatureDocument t [])) s (t.offspring? s.nextId) s.next := by
  rw [creatureDocument_eq, Creature.read, Intake.record]
  refine Yields.of_eq ((t.yields_given s).check Creature.normalize) ?_
  unfold offspring?
  cases Name.ofText? 200 t.name.text <;> cases t.actions.mapM Action.copy? <;> rfl

/-- **What a creature has of the template it was made from**: its name, notes and maxima, copies of its actions, full
pools outside the mythic phase, and its recharges before those that its actions get. -/
structure MadeInto (t : Template) (c : Creature) : Prop where
  name : c.name.text = t.name.text
  description : c.description = t.description
  actions : List.Forall₂ (fun a b => a.copy? = some b) t.actions c.actions
  maxLegendary : c.maxLegendary = t.maxLegendary.getD 0
  maxMythic : c.maxMythic = t.maxMythic.getD 0
  paragonPhases : c.paragonPhases = t.paragonPhases.getD 0
  villainPerRound : c.villainPerRound = t.villainPerRound.getD 0
  legendary : c.legendary = c.maxLegendary
  mythic : c.mythic = 0 ∧ c.mythicActive = false
  paragonPhase : c.paragonPhase = 0
  villainUsed : c.villainUsed = 0
  recharges : c.recharges = t.recharges.getD [] ++ Creature.bindings (t.recharges.getD []) t.actions

theorem bindings_of_copied {as bs : List Action} (copied : List.Forall₂ (fun a b => a.copy? = some b) as bs)
    (rs : List Recharge) : Creature.bindings rs bs = Creature.bindings rs as := by
  have same : bs.filterMap Action.binding? = as.filterMap Action.binding? := by
    induction copied with
    | nil => rfl
    | @cons a b _ _ first _ ih =>
      obtain ⟨trigger, -, rfl⟩ := Option.map_eq_some_iff.1 first
      rw [List.filterMap_cons, List.filterMap_cons, ih]
      rfl
  rw [Creature.bindings, Creature.bindings, same]

theorem madeInto_of_offspring {t : Template} {id : Label} {c : Creature} (made : t.offspring? id = some c) :
    t.MadeInto c := by
  simp only [offspring?, Option.bind_eq_some_iff] at made
  obtain ⟨name, named, actions, copied, normal⟩ := made
  have copied := mapM_eq_some_iff.1 copied
  have named : name.text = t.name.text := by
    unfold Name.ofText? at named
    split at named
    · cases named
      rfl
    · cases named
  unfold Creature.normalize at normal
  split at normal
  · cases normal
  · cases normal
    have full : Creature.clamp (t.maxLegendary.getD 0) (t.maxLegendary.getD 0) = t.maxLegendary.getD 0 :=
      Creature.clamp_of_le (Nat.le_refl _)
    have spent : Creature.clamp 0 (t.maxMythic.getD 0) = 0 := Creature.clamp_of_le (Nat.zero_le _)
    have bound := Creature.bind_eq actions (t.recharges.getD [])
    rw [bindings_of_copied copied] at bound
    exact ⟨named, rfl, copied, rfl, rfl, rfl, rfl, full, ⟨spent, rfl⟩, Nat.zero_min _, Nat.zero_min _, bound⟩

/-- **Of which templates a creature is made.** -/
theorem isSome_offspring?_iff (t : Template) (id : Label) : (t.offspring? id).isSome ↔
    t.name.text.length ≤ 200 ∧ (Creature.boundIds (t.recharges.getD [])).Nodup ∧
      ∀ a ∈ t.actions, ∀ g ∈ a.trigger, g.Legible := by
  have name : (Name.ofText? 200 t.name.text).isSome ↔ t.name.text.length ≤ 200 := by
    simp [Name.ofText?, t.name.filled]
  have actions : (t.actions.mapM Action.copy?).isSome ↔ ∀ a ∈ t.actions, ∀ g ∈ a.trigger, g.Legible := by
    simp only [isSome_mapM_iff, Action.isSome_copy?_iff]
  have once : Creature.firstDuplicate? [] (t.recharges.getD []) = none ↔
      (Creature.boundIds (t.recharges.getD [])).Nodup :=
    ⟨fun single => (Creature.nodup_of_firstDuplicate? _ _ single).1,
      fun once => Creature.firstDuplicate?_of_nodup _ _ once (by simp)⟩
  have normal (name : Name 200) (actions : List Action) :
      ((Creature.normalize (t.offspringGiven id name actions)).toOption).isSome ↔
        Creature.firstDuplicate? [] (t.recharges.getD []) = none := by
    unfold Creature.normalize offspringGiven
    cases Creature.firstDuplicate? [] (t.recharges.getD []) <;> simp [Except.toOption]
  rw [← name, ← once, ← actions, offspring?]
  cases Name.ofText? 200 t.name.text with
  | none => simp
  | some name =>
    cases t.actions.mapM Action.copy? with
    | none => simp
    | some actions => simpa using normal name actions

end Template

namespace Catalogue

/-- A creature is made from a stored template if there is one that is made from it. -/
theorem create_eq_made_iff {c : Catalogue} {id : String} {t : Template} (stored : c.template? id = some t)
    {s s' : Supply} {creature : Creature} :
    c.create id [] s = (.made creature, s') ↔ t.offspring? s.nextId = some creature ∧ s' = s.next := by
  obtain ⟨answer, read, same⟩ := t.yields_offspring s
  rw [create, stored]
  dsimp only
  rw [read, ← same]
  cases answer with
  | error issues => simp [Except.toOption]
  | ok made => simp [Except.toOption, eq_comm]

/-- A drake with a fencer's reaction, which it has to recharge, and a breath. -/
def drake : Template :=
  { fencer (.str "once") with
    id := ⟨"drake", by decide⟩
    name := ⟨"Drake", by decide⟩
    maxMythic := some 2
    recharges := some ((fencer (.str "once")).actions.map fun a => ⟨a.id, Recharge.usual, false⟩)
    actions := (fencer (.str "once")).actions ++
      [{ Defaults.action ⟨"breath", by decide⟩ ⟨"Breath", by decide⟩ .recharge "Flames in a cone."
          [.area none (Defaults.region "cone" 30)
            [Defaults.harm none "6d6" "fire" (some { Defaults.against .dexterity 13 with half := true })]] with
        recharge := some Recharge.usual }] }

theorem told_drake : drake.Told .plain := by
  have reaction : (fencer (.str "once")).Told .plain := told_fencer rfl
  have breath : (Action.Told .plain) (drake.actions[1]) := by
    refine ⟨nofun, ⟨nofun, ?_, ⟨nofun, Form.tells_nil _ _⟩, trivial⟩, trivial⟩
    rintro _ ⟨⟩
    exact Form.tells_nil _ _
  exact List.forall_mem_append.2 ⟨reaction, List.forall_mem_singleton.2 breath⟩

/-- **A creature has of a template what the template says**, and its actions are those of the template exactly if no key
in their triggers, areas and custom effects is lost on the way: none is null, and none of a trigger is spelled like a
field. -/
theorem create_copies {c : Catalogue} {id : String} {t : Template} (stored : c.template? id = some t) {s s' : Supply}
    {creature : Creature} (made : c.create id [] s = (.made creature, s')) :
    t.MadeInto creature ∧ (creature.actions = t.actions ↔ t.Told .plain) := by
  have into : t.MadeInto creature := Template.madeInto_of_offspring ((create_eq_made_iff stored).1 made).1
  have copied : List.Forall₂ (fun a b => a.copy? = some b) t.actions creature.actions := into.actions
  refine ⟨into, ?_⟩
  constructor
  · intro same
    rw [same, List.forall₂_same] at copied
    exact fun a mem => Action.copy?_eq_self_iff.1 (copied a mem)
  · intro told
    have unchanged : List.Forall₂ (fun a b => a.copy? = some b) t.actions t.actions :=
      List.forall₂_same.2 fun a mem => Action.copy?_eq_self_iff.2 (told a mem)
    have both := (mapM_eq_some_iff.2 copied).symm.trans (mapM_eq_some_iff.2 unchanged)
    exact Option.some.inj both

theorem create_copies_drake : (empty.addTemplate drake).template? "drake" = some drake ∧
    ∃ creature s', (empty.addTemplate drake).create "drake" [] ⟨0, newYear⟩ = (.made creature, s') ∧
      creature.actions = drake.actions ∧ creature.maxMythic = 2 ∧ creature.mythic = 0 ∧
      creature.recharges =
        [⟨⟨"parry", by decide⟩, Recharge.usual, false⟩, ⟨⟨"breath", by decide⟩, Recharge.usual, true⟩] := by
  have stored : (empty.addTemplate drake).template? "drake" = some drake := rfl
  have there : ∃ creature s', (empty.addTemplate drake).create "drake" [] ⟨0, newYear⟩ = (.made creature, s') :=
    ⟨_, _, rfl⟩
  obtain ⟨creature, s', made⟩ := there
  obtain ⟨into, same_iff⟩ := create_copies stored made
  exact ⟨stored, creature, s', made, same_iff.2 told_drake, into.maxMythic, into.mythic.1, into.recharges⟩

/-- **A key that is null is lost**: a template is stored with it, and the creature that is made does not have it. -/
theorem fencers_forget : Reads (Template.read ((fencer .null).write .full)) (fencer .null) ∧
    (fencers .null).template? "fencer" = some (fencer .null) ∧
    ∃ creature s', (fencers .null).create "fencer" [] ⟨0, newYear⟩ = (.made creature, s') ∧
      creature.actions ≠ (fencer .null).actions := by
  refine ⟨Template.reads_form (fencer .null).told_full, rfl, _, _, rfl, fun same => ?_⟩
  -- Triggers can be compared, actions cannot.
  have triggers := congrArg (List.map (·.trigger)) same
  exact absurd triggers (by decide +kernel)

/-- **A creature can be made from a stored template** if its name is no longer than those of creatures, no action is
bound to two of its recharges and whatever its triggers note could be a value of their fields. -/
theorem create_made_iff {c : Catalogue} {id : String} {t : Template} (stored : c.template? id = some t) (s : Supply) :
    (∃ creature s', c.create id [] s = (.made creature, s')) ↔
      t.name.text.length ≤ 200 ∧ (Creature.boundIds (t.recharges.getD [])).Nodup ∧
        ∀ a ∈ t.actions, ∀ g ∈ a.trigger, g.Legible := by
  rw [← t.isSome_offspring?_iff s.nextId, Option.isSome_iff_exists]
  constructor
  · rintro ⟨creature, s', made⟩
    exact ⟨creature, ((create_eq_made_iff stored).1 made).1⟩
  · rintro ⟨creature, made⟩
    exact ⟨creature, s.next, (create_eq_made_iff stored).2 ⟨made, rfl⟩⟩

theorem create_made_iff_drake : (empty.addTemplate drake).template? "drake" = some drake ∧
    ∃ creature s', (empty.addTemplate drake).create "drake" [] ⟨0, newYear⟩ = (.made creature, s') := by
  have stored : (empty.addTemplate drake).template? "drake" = some drake := rfl
  have legible : ∀ a ∈ drake.actions, ∀ g ∈ a.trigger, g.Legible := by
    refine List.forall_mem_cons.2 ⟨?_, List.forall_mem_singleton.2 nofun⟩
    rintro _ ⟨⟩
    exact ⟨nofun, nofun, nofun⟩
  exact ⟨stored, (create_made_iff stored ⟨0, newYear⟩).2 ⟨by decide, by decide, legible⟩⟩

/-- A drake whose reaction is bound to two recharges. -/
def twiceBound : Template := { drake with recharges := drake.recharges.map fun rs => rs ++ rs }

/-- **Not every template that is stored can be made a creature of.** -/
theorem twiceBound_refused : Reads (Template.read (twiceBound.write .full)) twiceBound ∧
    (empty.addTemplate twiceBound).template? "drake" = some twiceBound ∧
    ¬ ∃ creature s', (empty.addTemplate twiceBound).create "drake" [] ⟨0, newYear⟩ = (.made creature, s') := by
  refine ⟨Template.reads_form twiceBound.told_full, rfl, ?_⟩
  rintro ⟨creature, s', made⟩
  have there := ((create_eq_made_iff (t := twiceBound) rfl).1 made).1
  have once := ((twiceBound.isSome_offspring?_iff _).1 (Option.isSome_of_eq_some there)).2.1
  exact absurd once (by decide)

end Catalogue
end Bestiary
