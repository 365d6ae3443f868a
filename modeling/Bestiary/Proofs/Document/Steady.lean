import Bestiary.Proofs.Document.Form
import Bestiary.Template
/-!
# Steady — what is refused does not depend on the supply

Most readings are constant: they answer the same from every supply and use nothing up.  Actions without an id get one
from the supply, so what is read of a template depends on it; whether the template is refused, and with which issues,
does not (`Template.steady_read`).
-/
namespace Bestiary
namespace Intake

variable {α β : Type} {m : Intake α} {n : Intake β}

/-- A reading that answers the same from every supply and uses nothing up. -/
def Constant (m : Intake α) : Prop := ∃ answer, ∀ s, m.run s = (answer, s)

/-- What an answer refuses with, if it does. -/
def refusal : Except (List Issue) α → Option (List Issue)
  | .ok _ => none
  | .error issues => some issues

/-- **A reading that refuses from every supply with the same issues, or from none.** -/
def Steady (m : Intake α) : Prop := ∃ why, ∀ s, refusal (m.run s).1 = why

namespace Constant

theorem of_answer (answer : Except (List Issue) α) : Constant (fun s => (answer, s)) := ⟨answer, fun _ => rfl⟩

theorem pure (a : α) : Constant (Pure.pure a : Intake α) := of_answer _

theorem issue (cause : Issue.Cause) : Constant (issue cause : Intake α) := of_answer _

theorem ofExcept : ∀ r : Except Issue.Cause α, Constant (Intake.ofExcept r)
  | .ok a => pure a
  | .error cause => issue cause

theorem map (f : α → β) (h : Constant m) : Constant (f <$> m) := by
  obtain ⟨answer, h⟩ := h
  unfold run at h
  cases answer <;> exact ⟨_, fun s => by simp only [run, Functor.map, Intake.map, h]; rfl⟩

theorem pair (h : Constant m) (k : Constant n) : Constant (Intake.pair m n) := by
  obtain ⟨answer, h⟩ := h
  obtain ⟨next, k⟩ := k
  unfold run at h k
  cases answer <;> cases next <;> exact ⟨_, fun s => by simp only [run, Intake.pair, h, k]; rfl⟩

theorem seq {f : Intake (α → β)} (h : Constant f) (k : Constant m) : Constant (f <*> m) :=
  map (fun (p : (α → β) × α) => p.1 p.2) (pair h k)

theorem seqLeft (h : Constant m) (k : Constant n) : Constant (m <* n) := map Prod.fst (pair h k)

theorem inside (place : Issue.Place) (h : Constant m) : Constant (Intake.inside place m) := by
  obtain ⟨answer, h⟩ := h
  unfold run at h
  cases answer <;> exact ⟨_, fun s => by simp only [run, Intake.inside, h]; rfl⟩

theorem check (test : α → Except Issue.Cause β) (h : Constant m) : Constant (Intake.check m test) := by
  obtain ⟨answer, h⟩ := h
  unfold run at h
  cases answer with
  | error issues => exact ⟨_, fun s => by simp only [run, Intake.check, h]; rfl⟩
  | ok a =>
    obtain ⟨tested, k⟩ := ofExcept (test a)
    exact ⟨tested, fun s => by simp only [run, Intake.check, h]; exact k s⟩

theorem itemsFrom {read : α → Intake β} (each : ∀ a, Constant (read a)) : ∀ (as : List α) (n : Nat),
    Constant (Intake.itemsFrom read n as)
  | [], _ => pure []
  | a :: as, n => map (fun (p : β × List β) => p.1 :: p.2) (pair ((each a).inside _) (itemsFrom each as (n + 1)))

variable {read : Json → Intake α} (each : ∀ j, Constant (read j))
include each

theorem nullable : ∀ j, Constant (Intake.nullable read j)
  | .null => pure none
  | .bool _ | .int _ | .float _ | .str _ | .torn _ | .arr _ | .obj _ => map some (each _)

theorem list : ∀ j, Constant (Intake.list read j)
  | .arr items => itemsFrom each items 0
  | .null | .bool _ | .int _ | .float _ | .str _ | .torn _ | .obj _ => issue .listType

theorem required (e : Entries) (key : Key) : Constant (Intake.required e key read) := by
  unfold Intake.required
  split
  · exact (each _).inside _
  · exact (issue .missing).inside _

theorem field (e : Entries) (key : Key) (absent : α) : Constant (Intake.field e key absent read) := by
  unfold Intake.field Intake.made
  split
  · exact (each _).inside _
  · exact pure absent

theorem optional (e : Entries) (key : Key) : Constant (Intake.optional e key read) := field (nullable each) e key none

end Constant

/-! ## Single values -/

theorem constant_record {name : String} {read : Entries → Intake α} (each : ∀ e, Constant (read e)) :
    ∀ j, Constant (record name read j)
  | .obj e => each e
  | .null | .bool _ | .int _ | .float _ | .str _ | .torn _ | .arr _ => .issue _

theorem constant_noExtras (e : Entries) (keys : List Key) : Constant (noExtras e keys) := by
  unfold noExtras
  cases Key.rest keys e <;> exact .of_answer _

theorem constant_extras (e : Entries) (keys : List Key) : Constant (extras e keys) := .pure _

theorem constant_text (j : Json) : Constant (text j) := by
  cases j <;> exact .of_answer _

theorem constant_wholeText (j : Json) : Constant (wholeText j) := by
  cases j <;> exact .of_answer _

theorem constant_int (j : Json) : Constant (int j) := .ofExcept _

theorem constant_nat (j : Json) : Constant (nat j) := (constant_int j).check _

theorem constant_bool (j : Json) : Constant (bool j) := .ofExcept _

theorem constant_tag [Tag α] (j : Json) : Constant (tag j : Intake α) := .ofExcept _

theorem constant_label (j : Json) : Constant (label j) := (constant_wholeText j).check _

theorem constant_name (most : Nat) (j : Json) : Constant (name most j) := (constant_wholeText j).check _

theorem constant_occasion (j : Json) : Constant (occasion j) := by
  cases j <;> exact .of_answer _

theorem constant_threshold (j : Json) : Constant (threshold j) := (constant_int j).check _

theorem constant_phase (j : Json) : Constant (phase j) := (constant_int j).check _

theorem constant_dictionary (j : Json) : Constant (dictionary j) := by
  cases j <;> exact .of_answer _

theorem constant_quantity (j : Json) : Constant (quantity j) := by
  unfold quantity
  split
  · exact .of_answer _
  · exact .of_answer _
  · exact .of_answer _
  · split <;> exact .of_answer _

end Intake

open Intake (Constant Steady)

/-! ## Records -/

theorem Area.constant_read : ∀ j, Constant (Area.read j) := by
  refine Intake.constant_record fun e => ?_
  refine .seq ?_ (Intake.constant_extras e _)
  refine .seq ?_ (.field (fun j => .pure j) e _ _)
  refine .seq ?_ (.optional Intake.constant_nat e _)
  exact .map Area.mk (.optional Intake.constant_text e _)

theorem Targeting.constant_read : ∀ j, Constant (Targeting.read j) := by
  refine Intake.constant_record fun e => ?_
  refine .seqLeft ?_ (Intake.constant_noExtras e _)
  refine .seq ?_ (.optional Area.constant_read e _)
  refine .seq ?_ (.field (.list Intake.constant_text) e _ _)
  refine .seq ?_ (.field Intake.constant_nat e _ _)
  exact .map Targeting.mk (.required Intake.constant_tag e _)

namespace Save

theorem constant_readFields (e : Entries) : Constant (readFields e) := by
  refine .seq ?_ (.field Intake.constant_bool e _ _)
  refine .seq ?_ (.field Intake.constant_bool e _ _)
  refine .seq ?_ (.field Intake.constant_bool e _ _)
  refine .seq ?_ (.field Intake.constant_bool e _ _)
  refine .seq ?_ (.field Intake.constant_bool e _ _)
  refine .seq ?_ (.field Intake.constant_bool e _ _)
  refine .seq ?_ (.optional Intake.constant_int e _)
  exact .map Save.mk (.optional (fun j => .ofExcept _) e _)

theorem constant_read : ∀ j, Constant (Save.read j) :=
  Intake.constant_record fun e => .seqLeft (constant_readFields e) (Intake.constant_noExtras e _)

end Save

theorem Trigger.constant_read : ∀ j, Constant (Trigger.read j) := by
  refine Intake.constant_record fun e => ?_
  refine .seq ?_ (Intake.constant_extras e _)
  refine .seq ?_ (.optional Intake.constant_nat e _)
  refine .seq ?_ (.optional Intake.constant_nat e _)
  refine .seq ?_ (.optional Intake.constant_text e _)
  refine .seq ?_ (.optional Intake.constant_nat e _)
  exact .map Trigger.mk (.required Intake.constant_occasion e _)

theorem Recharge.constant_read : ∀ j, Constant (Recharge.read j) := by
  refine Intake.constant_record fun e => ?_
  refine .seqLeft ?_ (Intake.constant_noExtras e _)
  refine .seq ?_ (.field Intake.constant_bool e _ _)
  refine .seq ?_ (.field Intake.constant_threshold e _ _)
  exact .map Recharge.mk (.required Intake.constant_label e _)

namespace Effect

variable {e : Entries} {lists branches : Nested}

theorem constant_targets (e : Entries) : Constant (readTargets e) := .optional Targeting.constant_read e _

theorem constant_save (e : Entries) : Constant (readSave e) := .optional Save.constant_read e _

theorem constant_nested {nested : Nested} (each : ∀ x ∈ nested, Constant x.2) (e : Entries) (key : Key) :
    Constant (readNested e nested key) := by
  unfold readNested
  split
  · rename_i k _ _
    refine .inside _ ?_
    cases found : nested.lookup k with
    | none => exact .issue _
    | some reading =>
      obtain ⟨before, after, rfl, -⟩ := List.lookup_eq_some_iff.1 found
      exact each (k, reading) (by simp)
  · exact .pure []

section Kinds

variable (e : Entries)

theorem constant_damage : Constant (readDamage e) := by
  refine .seqLeft ?_ (Intake.constant_noExtras e _)
  refine .seq ?_ (constant_save e)
  refine .seq ?_ (.optional Intake.constant_text e _)
  refine .seq ?_ (.field Intake.constant_quantity e _ _)
  exact .map _ (constant_targets e)

theorem constant_healing : Constant (readHealing e) := by
  refine .seqLeft ?_ (Intake.constant_noExtras e _)
  refine .seq ?_ (.field Intake.constant_quantity e _ _)
  exact .map _ (constant_targets e)

theorem constant_condition : Constant (readCondition e) := by
  refine .seqLeft ?_ (Intake.constant_noExtras e _)
  refine .seq ?_ (constant_save e)
  refine .seq ?_ (.optional Intake.constant_nat e _)
  refine .seq ?_ (.required Intake.constant_label e _)
  exact .map _ (constant_targets e)

theorem constant_movement : Constant (readMovement e) := by
  refine .seqLeft ?_ (Intake.constant_noExtras e _)
  refine .seq ?_ (constant_save e)
  refine .seq ?_ (.optional Intake.constant_text e _)
  refine .seq ?_ (.field Intake.constant_nat e _ _)
  exact .map _ (constant_targets e)

theorem constant_summon : Constant (readSummon e) := by
  refine .seqLeft ?_ (Intake.constant_noExtras e _)
  refine .seq ?_ (.field (fun j => .pure j) e _ _)
  refine .seq ?_ (.field Intake.constant_nat e _ _)
  refine .seq ?_ (.field (fun j => .pure j) e _ _)
  exact .map _ (constant_targets e)

theorem constant_custom : Constant (readCustom e) := by
  refine .seq ?_ (Intake.constant_extras e _)
  refine .seq ?_ (.field Intake.constant_dictionary e _ _)
  exact .map _ (constant_targets e)

end Kinds

/-- An effect is read constantly if the effects it nests are. -/
theorem constant_tagged (each : ∀ x ∈ lists, Constant x.2) (every : ∀ x ∈ branches, Constant x.2) (e : Entries) :
    Constant (readTagged e lists branches) := by
  have area : Constant (readArea e lists) := by
    refine .seqLeft ?_ (Intake.constant_noExtras e _)
    refine .seq ?_ (constant_nested each e _)
    refine .seq ?_ (.optional Area.constant_read e _)
    exact .map _ (constant_targets e)
  have save : Constant (readBranching e branches) := by
    refine .seqLeft ?_ (Intake.constant_noExtras e _)
    refine .seq ?_ (constant_nested every e _)
    refine .seq ?_ (constant_nested every e _)
    exact .seq (.map _ (constant_targets e)) (Save.constant_readFields e)
  unfold readTagged
  split
  · exact .issue _
  · split
    · exact .issue _
    · rename_i kind _
      refine .inside _ ?_
      cases kind with
      | damage => exact constant_damage e
      | healing => exact constant_healing e
      | condition => exact constant_condition e
      | movement => exact constant_movement e
      | summon => exact constant_summon e
      | area => exact area
      | save => exact save
      | custom => exact constant_custom e

mutual

/-- **Effects are read constantly**, at any depth. -/
theorem constant_read : ∀ j, Constant (read j)
  | .obj e => by
    rw [read]
    exact constant_tagged (constant_listsIn e) (constant_branchesIn e) e
  | .null | .bool _ | .int _ | .float _ | .str _ | .torn _ | .arr _ => .issue _

theorem constant_listsIn : ∀ (e : Entries), ∀ x ∈ listsIn e, Constant x.2
  | [] => nofun
  | (key, value) :: e => by
    rw [listsIn]
    exact List.forall_mem_cons.2 ⟨constant_readList value, constant_listsIn e⟩

theorem constant_branchesIn : ∀ (e : Entries), ∀ x ∈ branchesIn e, Constant x.2
  | [] => nofun
  | (key, value) :: e => by
    rw [branchesIn]
    exact List.forall_mem_cons.2 ⟨constant_readBranch value, constant_branchesIn e⟩

theorem constant_readList : ∀ j, Constant (readList j)
  | .arr items => by
    rw [readList]
    exact constant_readItems 0 items
  | .null | .bool _ | .int _ | .float _ | .str _ | .torn _ | .obj _ => .issue _

theorem constant_readBranch : ∀ j, Constant (readBranch j)
  | .null => .pure []
  | .arr items => by
    rw [readBranch]
    exact constant_readItems 0 items
  | .obj e => by
    rw [readBranch]
    exact .map _ ((constant_tagged (constant_listsIn e) (constant_branchesIn e) e).inside _)
  | .bool _ | .int _ | .float _ | .str _ | .torn _ => .issue _

theorem constant_readItems : ∀ (n : Nat) (items : List Json), Constant (readItems n items)
  | _, [] => .pure []
  | n, item :: items => by
    rw [readItems]
    exact .map _ (.pair ((constant_read item).inside _) (constant_readItems (n + 1) items))

end

end Effect

/-! ## Actions and templates -/

namespace Intake

variable {α β : Type} {m : Intake α} {n : Intake β}

theorem Constant.steady (h : Constant m) : Steady m := by
  obtain ⟨answer, h⟩ := h
  exact ⟨refusal answer, fun s => by rw [h s]⟩

/-- What is refused from one supply is refused from every one, with the same issues. -/
theorem Steady.refused (h : Steady m) {s s' : Supply} {issues : List Issue} (refused : m.run s = (.error issues, s'))
    (t : Supply) : ∃ t', m.run t = (.error issues, t') := by
  obtain ⟨why, h⟩ := h
  have there := h s
  have here := h t
  rw [refused] at there
  rcases again : m.run t with ⟨further | a, t'⟩
  · rw [again, ← there] at here
    cases here
    exact ⟨t', rfl⟩
  · rw [again, ← there] at here
    cases here

/-- The issues of two answers, as they are gathered. -/
def gathered : Option (List Issue) → Option (List Issue) → Option (List Issue)
  | none, why => why
  | some issues, none => some issues
  | some issues, some further => some (issues ++ further)

namespace Steady

theorem map (f : α → β) (h : Steady m) : Steady (f <$> m) := by
  obtain ⟨why, h⟩ := h
  refine ⟨why, fun s => ?_⟩
  rw [← h s]
  simp only [run, Functor.map, Intake.map]
  rcases m s with ⟨issues | a, t⟩ <;> rfl

theorem pair (h : Steady m) (k : Steady n) : Steady (Intake.pair m n) := by
  obtain ⟨why, h⟩ := h
  obtain ⟨reason, k⟩ := k
  refine ⟨gathered why reason, fun s => ?_⟩
  -- The second reading starts from whatever supply the first one leaves.
  rcases found : m s with ⟨answer, t⟩
  rcases then_found : n t with ⟨next, u⟩
  have first : refusal answer = why := by simpa [run, found] using h s
  have second : refusal next = reason := by simpa [run, then_found] using k t
  rw [← first, ← second]
  simp only [run, Intake.pair, found]
  cases answer <;> cases next <;> simp only [then_found] <;> rfl

theorem seq {f : Intake (α → β)} (h : Steady f) (k : Steady m) : Steady (f <*> m) :=
  map (fun (p : (α → β) × α) => p.1 p.2) (pair h k)

theorem seqLeft (h : Steady m) (k : Steady n) : Steady (m <* n) := map Prod.fst (pair h k)

theorem inside (place : Issue.Place) (h : Steady m) : Steady (Intake.inside place m) := by
  obtain ⟨why, h⟩ := h
  refine ⟨why.map fun issues => issues.map (Issue.within place), fun s => ?_⟩
  rw [← h s]
  simp only [run, Intake.inside]
  rcases m s with ⟨issues | a, t⟩ <;> rfl

theorem itemsFrom {read : α → Intake β} (each : ∀ a, Steady (read a)) : ∀ (as : List α) (n : Nat),
    Steady (Intake.itemsFrom read n as)
  | [], _ => (Constant.pure []).steady
  | a :: as, n => map (fun (p : β × List β) => p.1 :: p.2) (pair ((each a).inside _) (itemsFrom each as (n + 1)))

theorem list {read : Json → Intake α} (each : ∀ j, Steady (read j)) : ∀ j, Steady (Intake.list read j)
  | .arr items => itemsFrom each items 0
  | .null | .bool _ | .int _ | .float _ | .str _ | .torn _ | .obj _ => (Constant.issue .listType).steady

theorem made {read : Json → Intake α} {make : Intake α} (each : ∀ j, Steady (read j)) (own : Steady make) (e : Entries)
    (key : Key) : Steady (Intake.made e key make read) := by
  unfold Intake.made
  split
  · exact (each _).inside _
  · exact own

theorem record {name : String} {read : Entries → Intake α} (each : ∀ e, Steady (read e)) :
    ∀ j, Steady (Intake.record name read j)
  | .obj e => each e
  | .null | .bool _ | .int _ | .float _ | .str _ | .torn _ | .arr _ => (Constant.issue _).steady

end Steady
end Intake

theorem Action.steady_read : ∀ j, Steady (Action.read j) := by
  refine Steady.record fun e => ?_
  have id : Steady (Intake.id e) := .made (fun j => (Intake.constant_label j).steady) ⟨none, fun _ => rfl⟩ e _
  refine .seqLeft ?_ (Intake.constant_noExtras e _).steady
  refine .seq ?_ (Constant.field (.list Effect.constant_read) e _ _).steady
  refine .seq ?_ (Constant.optional Intake.constant_phase e _).steady
  refine .seq ?_ (Constant.optional Intake.constant_threshold e _).steady
  refine .seq ?_ (Constant.optional Trigger.constant_read e _).steady
  refine .seq ?_ (Constant.field Intake.constant_nat e _ _).steady
  refine .seq ?_ (Constant.required Intake.constant_tag e _).steady
  refine .seq ?_ (Constant.field Intake.constant_text e _ _).steady
  refine .seq ?_ (Constant.required (Intake.constant_name 200) e _).steady
  exact .map Action.mk id

/-- **Whether a template is refused, and with which issues, does not depend on the supply.** -/
theorem Template.steady_read : ∀ j, Steady (Template.read j) := by
  refine Steady.record fun e => ?_
  refine .seqLeft ?_ (Intake.constant_noExtras e _).steady
  refine .seq ?_ (.made (.list Action.steady_read) (Constant.pure []).steady e _)
  refine .seq ?_ (Constant.optional (.list Recharge.constant_read) e _).steady
  refine .seq ?_ (Constant.optional Intake.constant_nat e _).steady
  refine .seq ?_ (Constant.optional Intake.constant_nat e _).steady
  refine .seq ?_ (Constant.optional Intake.constant_nat e _).steady
  refine .seq ?_ (Constant.optional Intake.constant_nat e _).steady
  refine .seq ?_ (Constant.field Intake.constant_text e _ _).steady
  refine .seq ?_ (Constant.field Intake.constant_text e _ _).steady
  refine .seq ?_ (Constant.required Intake.constant_label e _).steady
  exact .map Template.mk (Constant.required Intake.constant_label e _).steady

end Bestiary
