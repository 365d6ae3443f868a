import Bestiary.Effect.Document
import Bestiary.Proofs.Document.Form
/-!
# Effect — effects that are written are read back

Whom an effect applies to, its save and its area are records, and so is the effect itself; the nested effects of areas
and saves are lists, so the law goes down with the effects.  Effects are read back in every form that tells the extra
keys of areas and custom effects from their fields (`Effect.Told`, `Effect.reads_form`), as the full form does
(`Effect.told_full`).
-/
namespace Bestiary

open Intake (Reads)
open Intake.Reads (Found)

namespace Intake.Reads

theorem quantity (q : Quantity) : Reads (Intake.quantity q.toJson) q := by
  cases q <;> exact pure _

theorem texts (ss : List String) : Reads (Intake.list Intake.text (Json.texts ss)) ss :=
  list fun s _ => text s

end Intake.Reads

variable {form : Form}

namespace Area

/-- The fields of an area with their values. -/
def written (a : Area) : List (Key × Json) :=
  [(Field.shape, Json.ofText? a.shape), (Field.size, Json.ofNat? a.size), (Field.origin, a.origin)]

def Told (form : Form) (a : Area) : Prop := form.Tells a.written a.extras.entries

theorem told_full (a : Area) : a.Told .full := Form.tells_full a.extras rfl

theorem write_form {a : Area} (told : a.Told form) : a.write form = .obj (form.entries a.written a.extras.entries) :=
  congrArg Json.obj (Form.extended_eq a.extras (by decide) rfl told)

theorem write_ne_null (form : Form) (a : Area) : a.write form ≠ .null := nofun

theorem reads_form {a : Area} (told : a.Told form) : Reads (Area.read (a.write form)) a := by
  rw [write_form told, Area.read, Intake.record]
  have found := Reads.found a.extras (by decide) rfl told
  obtain ⟨shape, size, origin, extras⟩ := a
  simp only [written, List.forall_mem_cons] at found
  obtain ⟨shape_found, size_found, origin_found, -⟩ := found
  refine .seq ?_ (.extras (by decide) rfl told)
  refine .seq ?_ (origin_found.default (.free origin) (by rintro rfl; exact .pure _))
  refine .seq ?_ (size_found.optional (.nat? size))
  exact .map Area.mk (shape_found.optional (.text? shape))

end Area

namespace Targeting

/-- The fields of a targeting, written in a form. -/
def parts (form : Form) (t : Targeting) : List (Key × Json) :=
  [(Field.kind, .str t.choice.name), (Field.count, .int t.count), (Field.ids, Json.texts t.ids),
    (Field.area, (t.area.map (Area.write form)).getD .null)]

def Told (form : Form) (t : Targeting) : Prop := ∀ a ∈ t.area, a.Told form

theorem told_full (t : Targeting) : t.Told .full := fun a _ => a.told_full

theorem write_form (form : Form) (t : Targeting) : t.write form = .obj (form.entries (t.parts form) []) :=
  Form.record_fields form (t.parts form)

theorem reads_form {t : Targeting} (told : t.Told form) : Reads (Targeting.read (t.write form)) t := by
  rw [write_form, Targeting.read, Intake.record]
  have found := Reads.found_bare form keys (t.parts form) (by decide) rfl
  obtain ⟨choice, count, ids, area⟩ := t
  simp only [parts, List.forall_mem_cons] at found
  obtain ⟨kind_found, count_found, ids_found, area_found, -⟩ := found
  refine .seqLeft ?_ (.noExtras (by decide) rfl)
  have area_read := Reads.nullable (Area.write_ne_null form) area fun a mem => Area.reads_form (told a mem)
  refine .seq ?_ (area_found.optional area_read)
  refine .seq ?_ (ids_found.field (.texts ids) (by simp [Json.texts]))
  refine .seq ?_ (count_found.field (.nat count))
  exact .map Targeting.mk (kind_found.required (.tag choice))

end Targeting

namespace Save

def written (s : Save) : List (Key × Json) :=
  [(Field.ability, Json.ofText? (s.ability.map Ability.name)), (Field.dc, Json.ofInt? s.dc),
    (Field.advantage, .bool s.advantage), (Field.disadvantage, .bool s.disadvantage),
    (Field.halfOnSuccess, .bool s.half), (Field.negateOnSuccess, .bool s.negate),
    (Field.halfDurationOnSuccess, .bool s.halfDuration), (Field.halfDistanceOnSuccess, .bool s.halfDistance)]

theorem write_form (form : Form) (s : Save) : s.write form = .obj (form.entries s.written []) :=
  Form.record_fields form s.written

/-- A save is read off its fields, wherever they stand. -/
theorem reads_found {s : Save} {entries : Entries} (found : ∀ field ∈ s.written, Found form entries field.1 field.2) :
    Reads (readFields entries) s := by
  obtain ⟨ability, dc, advantage, disadvantage, half, negate, halfDuration, halfDistance⟩ := s
  simp only [written, List.forall_mem_cons] at found
  obtain ⟨ability_found, dc_found, advantage_found, disadvantage_found, half_found, negate_found, duration_found,
    distance_found, -⟩ := found
  refine .seq ?_ (distance_found.field (.bool halfDistance))
  refine .seq ?_ (duration_found.field (.bool halfDuration))
  refine .seq ?_ (negate_found.field (.bool negate))
  refine .seq ?_ (half_found.field (.bool half))
  refine .seq ?_ (disadvantage_found.field (.bool disadvantage))
  refine .seq ?_ (advantage_found.field (.bool advantage))
  refine .seq ?_ (dc_found.optional (.int? dc))
  exact .map Save.mk (ability_found.optional (.ability? ability))

theorem reads_form (form : Form) (s : Save) : Reads (Save.read (s.write form)) s := by
  rw [write_form, Save.read, Intake.record]
  have own : s.written.map (·.1) = keys := rfl
  exact .seqLeft (reads_found (Reads.found_bare form _ _ (by decide) own)) (.noExtras (by decide) own)

end Save

namespace Effect

/-! ## Impacts -/

def targetsValue (form : Form) (t : Option Targeting) : Json := (t.map (Targeting.write form)).getD .null

def saveValue (form : Form) (s : Option Save) : Json := (s.map (Save.write form)).getD .null

theorem targets_found {entries : Entries} {t : Option Targeting}
    (found : Found form entries Field.targets (targetsValue form t)) (told : ∀ x ∈ t, x.Told form) :
    Reads (readTargets entries) t :=
  found.optional (.nullable (fun _ => Form.record_ne_null _ _) t fun x mem => Targeting.reads_form (told x mem))

theorem save_found {entries : Entries} {s : Option Save}
    (found : Found form entries Field.save (saveValue form s)) : Reads (readSave entries) s :=
  found.optional (.nullable (fun _ => Form.record_ne_null _ _) s fun s _ => s.reads_form form)

@[simp] theorem toJson_ne_null (amount : Quantity) : amount.toJson ≠ .null := by
  cases amount <;> simp [Quantity.toJson]

/-- The fields of an impact of its own, written in a form. -/
def parts (form : Form) : Impact → List (Key × Json)
  | .damage amount kind s =>
    [(Field.damage, amount.toJson), (Field.damageType, Json.ofText? kind), (Field.save, saveValue form s)]
  | .healing amount => [(Field.healing, amount.toJson)]
  | .condition condition duration s =>
    [(Field.condition, .str condition.text), (Field.duration, Json.ofNat? duration), (Field.save, saveValue form s)]
  | .movement distance direction s =>
    [(Field.distance, .int distance), (Field.direction, Json.ofText? direction), (Field.save, saveValue form s)]
  | .summon creature count position =>
    [(Field.creature, creature), (Field.count, .int count), (Field.position, position)]
  | .custom payload _ => [(Field.payload, .obj payload.entries)]

def extraKeys : Impact → Entries
  | .custom _ extras => extras.entries
  | _ => []

/-- The fields of an effect that is an impact, written in a form. -/
def impactParts (form : Form) (t : Option Targeting) (i : Impact) : List (Key × Json) :=
  (Field.targets, targetsValue form t) :: (Field.kind, .str i.kind.name) :: parts form i

/-- The form tells the extra keys of an effect that is an impact. -/
def ImpactTold (form : Form) (t : Option Targeting) (i : Impact) : Prop :=
  (∀ x ∈ t, x.Told form) ∧ form.Tells (impactParts form t i) (extraKeys i)

theorem impactTold_full (t : Option Targeting) (i : Impact) : ImpactTold .full t i := by
  refine ⟨fun x _ => x.told_full, ?_⟩
  cases i with
  | custom payload extras =>
    have own : (impactParts .full t (.custom payload extras)).map (·.1) = customKeys := rfl
    exact Form.tells_full extras own
  | _ => exact Form.tells_nil _ _

theorem writeImpact_form {t : Option Targeting} {i : Impact} (told : ImpactTold form t i) :
    writeImpact form t i = .obj (form.entries (impactParts form t i) (extraKeys i)) := by
  have bare := Form.record_fields form (impactParts form t i)
  cases i with
  | custom payload extras =>
    exact congrArg Json.obj (Form.extended_eq extras (by decide) rfl told.2)
  | _ => exact bare

/-- Reads an effect of a kind. -/
def readKind (e : Entries) (lists branches : Nested) : EffectKind → Intake Effect
  | .damage => readDamage e
  | .healing => readHealing e
  | .condition => readCondition e
  | .movement => readMovement e
  | .summon => readSummon e
  | .area => readArea e lists
  | .save => readBranching e branches
  | .custom => readCustom e

/-- An effect whose entries tell its kind is read as one of that kind. -/
theorem reads_tagged {e : Entries} {lists branches : Nested} (kind : EffectKind) {effect : Effect}
    (told : e.lookup "type" = some (.str kind.name)) (h : Reads (readKind e lists branches kind) effect) :
    Reads (readTagged e lists branches) effect := by
  have known : Tag.ofName? kind.name = some kind := Tag.ofName?_name kind
  have same : readTagged e lists branches = Intake.inside (.key kind.name) (readKind e lists branches kind) := by
    simp only [readTagged, told, known]
    cases kind <;> rfl
  rw [same]
  exact h.inside _

theorem reads_tagged_found {e : Entries} {lists branches : Nested} {kind : EffectKind} {effect : Effect}
    (found : Found form e Field.kind (.str kind.name)) (h : Reads (readKind e lists branches kind) effect) :
    Reads (readTagged e lists branches) effect := by
  have given := found.some (by simp)
  rw [Field.kind, Form.spelling_word] at given
  exact reads_tagged kind (Key.lookup_of_find? given) h

theorem reads_impact_form {t : Option Targeting} {i : Impact} (told : ImpactTold form t i) :
    Reads (read (writeImpact form t i)) (.impact t i) := by
  rw [writeImpact_form told, read]
  obtain ⟨targets_told, tells⟩ := told
  -- The fields are read in order, so the last of them comes off first.
  cases i with
  | damage amount kind s =>
    have own : (impactParts form t (.damage amount kind s)).map (·.1) =
      [Field.targets, Field.kind, Field.damage, Field.damageType, Field.save] := rfl
    have found := Reads.found_bare form _ _ (by decide) own
    simp only [impactParts, parts, List.forall_mem_cons] at found
    obtain ⟨targets, tag, damage, damageType, save, -⟩ := found
    refine reads_tagged_found tag ?_
    refine .seqLeft ?_ (.noExtras (by decide) own)
    refine .seq (g := fun s => impact t (.damage amount kind s)) ?_ (save_found save)
    refine .seq (g := fun k s => impact t (.damage amount k s)) ?_ (damageType.optional (.text? kind))
    refine .seq (g := fun n k s => impact t (.damage n k s)) ?_ (damage.field (.quantity amount))
    exact .map (fun t n k s => impact t (.damage n k s)) (targets_found targets targets_told)
  | healing amount =>
    have own : (impactParts form t (.healing amount)).map (·.1) = [Field.targets, Field.kind, Field.healing] := rfl
    have found := Reads.found_bare form _ _ (by decide) own
    simp only [impactParts, parts, List.forall_mem_cons] at found
    obtain ⟨targets, tag, healing, -⟩ := found
    refine reads_tagged_found tag ?_
    refine .seqLeft ?_ (.noExtras (by decide) own)
    refine .seq (g := fun n => impact t (.healing n)) ?_ (healing.field (.quantity amount))
    exact .map (fun t n => impact t (.healing n)) (targets_found targets targets_told)
  | condition condition duration s =>
    have own : (impactParts form t (.condition condition duration s)).map (·.1) =
      [Field.targets, Field.kind, Field.condition, Field.duration, Field.save] := rfl
    have found := Reads.found_bare form _ _ (by decide) own
    simp only [impactParts, parts, List.forall_mem_cons] at found
    obtain ⟨targets, tag, name, rounds, save, -⟩ := found
    refine reads_tagged_found tag ?_
    refine .seqLeft ?_ (.noExtras (by decide) own)
    refine .seq (g := fun s => impact t (.condition condition duration s)) ?_ (save_found save)
    refine .seq (g := fun d s => impact t (.condition condition d s)) ?_ (rounds.optional (.nat? duration))
    refine .seq (g := fun c d s => impact t (.condition c d s)) ?_ (name.required (.label condition))
    exact .map (fun t c d s => impact t (.condition c d s)) (targets_found targets targets_told)
  | movement distance direction s =>
    have own : (impactParts form t (.movement distance direction s)).map (·.1) =
      [Field.targets, Field.kind, Field.distance, Field.direction, Field.save] := rfl
    have found := Reads.found_bare form _ _ (by decide) own
    simp only [impactParts, parts, List.forall_mem_cons] at found
    obtain ⟨targets, tag, far, way, save, -⟩ := found
    refine reads_tagged_found tag ?_
    refine .seqLeft ?_ (.noExtras (by decide) own)
    refine .seq (g := fun s => impact t (.movement distance direction s)) ?_ (save_found save)
    refine .seq (g := fun d s => impact t (.movement distance d s)) ?_ (way.optional (.text? direction))
    refine .seq (g := fun n d s => impact t (.movement n d s)) ?_ (far.field (.nat distance))
    exact .map (fun t n d s => impact t (.movement n d s)) (targets_found targets targets_told)
  | summon creature count position =>
    have own : (impactParts form t (.summon creature count position)).map (·.1) =
      [Field.targets, Field.kind, Field.creature, Field.count, Field.position] := rfl
    have found := Reads.found_bare form _ _ (by decide) own
    simp only [impactParts, parts, List.forall_mem_cons] at found
    obtain ⟨targets, tag, who, many, place, -⟩ := found
    refine reads_tagged_found tag ?_
    refine .seqLeft ?_ (.noExtras (by decide) own)
    refine .seq (g := fun p => impact t (.summon creature count p)) ?_
      (place.default (.free position) (by rintro rfl; exact .pure _))
    refine .seq (g := fun n p => impact t (.summon creature n p)) ?_ (many.field (.nat count))
    refine .seq (g := fun c n p => impact t (.summon c n p)) ?_
      (who.default (.free creature) (by rintro rfl; exact .pure _))
    exact .map (fun t c n p => impact t (.summon c n p)) (targets_found targets targets_told)
  | custom payload extras =>
    have own : (impactParts form t (.custom payload extras)).map (·.1) = customKeys := rfl
    have found := Reads.found extras (by decide) own tells
    simp only [impactParts, parts, List.forall_mem_cons] at found
    obtain ⟨targets, tag, data, -⟩ := found
    refine reads_tagged_found tag ?_
    refine .seq (g := fun x => impact t (.custom payload x)) ?_ (.extras (by decide) own tells)
    refine .seq (g := fun p x => impact t (.custom p x)) ?_ (data.field (.dictionary payload))
    exact .map (fun t p x => impact t (.custom p x)) (targets_found targets targets_told)

/-! ## Nested effects -/

theorem lookup_listsIn (k : String) : ∀ e : Entries, (listsIn e).lookup k = (e.lookup k).map readList
  | [] => rfl
  | (key, value) :: rest => by
    rw [listsIn, List.lookup_cons, List.lookup_cons, lookup_listsIn k rest]
    split <;> rfl

theorem lookup_branchesIn (k : String) : ∀ e : Entries, (branchesIn e).lookup k = (e.lookup k).map readBranch
  | [] => rfl
  | (key, value) :: rest => by
    rw [branchesIn, List.lookup_cons, List.lookup_cons, lookup_branchesIn k rest]
    split <;> rfl

theorem reads_nested {e : Entries} {nested : Nested} {key : Key} {k : String} {j : Json}
    {reading : Json → Intake (List Effect)} {effects : List Effect} (given : key.find? e = some (k, j))
    (there : nested.lookup k = (e.lookup k).map reading) (own : e.lookup k = some j) (h : Reads (reading j) effects) :
    Reads (readNested e nested key) effects := by
  rw [readNested, given]
  dsimp only
  rw [there, own]
  exact h.inside _

mutual

/-- **The form tells every extra key of an effect**, and of all the effects it nests, from the fields. -/
def Told (form : Form) : Effect → Prop
  | .impact t i => ImpactTold form t i
  | .area t region effects => (∀ x ∈ t, x.Told form) ∧ (∀ a ∈ region, a.Told form) ∧ AllTold form effects
  | .save t _ onSuccess onFailure => (∀ x ∈ t, x.Told form) ∧ AllTold form onSuccess ∧ AllTold form onFailure

/-- The form tells every extra key of the effects. -/
def AllTold (form : Form) : List Effect → Prop
  | [] => True
  | effect :: effects => Told form effect ∧ AllTold form effects

end

mutual

/-- In full every effect is told. -/
theorem told_full : ∀ effect : Effect, Told .full effect
  | .impact t i => impactTold_full t i
  | .area _ _ effects => ⟨fun x _ => x.told_full, fun a _ => a.told_full, allTold_full effects⟩
  | .save _ _ onSuccess onFailure => ⟨fun x _ => x.told_full, allTold_full onSuccess, allTold_full onFailure⟩

theorem allTold_full : ∀ effects : List Effect, AllTold .full effects
  | [] => trivial
  | effect :: effects => ⟨told_full effect, allTold_full effects⟩

end

theorem nested_found {e : Entries} {nested : Nested} {key : Key} {j : Json} {reading : Json → Intake (List Effect)}
    {effects : List Effect} (found : Found form e key j)
    (there : ∀ k, nested.lookup k = (e.lookup k).map reading) (h : Reads (reading j) effects)
    (solid : j ≠ .null := by simp) :
    Reads (readNested e nested key) effects :=
  reads_nested (found.some solid) (there _) (Key.lookup_of_find? (found.some solid)) h

def areaParts (form : Form) (t : Option Targeting) (region : Option Area) (effects : List Effect) :
    List (Key × Json) :=
  [(Field.targets, targetsValue form t), (Field.kind, .str EffectKind.area.name),
    (Field.area, (region.map (Area.write form)).getD .null), (Field.effects, .arr (writeAll form effects))]

def saveParts (form : Form) (t : Option Targeting) (s : Save) (onSuccess onFailure : List Effect) :
    List (Key × Json) :=
  (Field.targets, targetsValue form t) :: s.written ++
    [(Field.kind, .str EffectKind.save.name), (Field.onSuccess, .arr (writeAll form onSuccess)),
      (Field.onFailure, .arr (writeAll form onFailure))]

mutual

/-- **An effect that is written is read back**, in every form that tells its extra keys. -/
theorem reads_form : ∀ effect : Effect, Told form effect → Reads (read (write form effect)) effect
  | .impact t i, told => by
    rw [write]
    exact reads_impact_form told
  | .area t region effects, told => by
    obtain ⟨targets_told, region_told, effects_told⟩ := told
    have shown : write form (.area t region effects) = .obj (form.entries (areaParts form t region effects) []) := by
      rw [write]
      exact Form.record_fields form (areaParts form t region effects)
    have own : (areaParts form t region effects).map (·.1) =
      [Field.targets, Field.kind, Field.area, Field.effects] := rfl
    have found := Reads.found_bare form _ _ (by decide) own
    rw [shown, read]
    simp only [areaParts, List.forall_mem_cons] at found
    obtain ⟨targets, tag, place, nested, -⟩ := found
    have region_read := Reads.nullable (Area.write_ne_null form) region
      fun a mem => Area.reads_form (region_told a mem)
    refine reads_tagged_found tag ?_
    refine .seqLeft ?_ (.noExtras (by decide) own)
    refine .seq ?_ (nested_found nested (fun k => lookup_listsIn k _) (reads_form_list effects effects_told))
    refine .seq ?_ (place.optional region_read)
    exact .map Effect.area (targets_found targets targets_told)
  | .save t s onSuccess onFailure, told => by
    obtain ⟨targets_told, success_told, failure_told⟩ := told
    have shown : write form (.save t s onSuccess onFailure) =
        .obj (form.entries (saveParts form t s onSuccess onFailure) []) := by
      rw [write]
      exact Form.record_fields form (saveParts form t s onSuccess onFailure)
    have own : (saveParts form t s onSuccess onFailure).map (·.1) =
      Field.targets :: Save.keys ++ [Field.kind, Field.onSuccess, Field.onFailure] := rfl
    have found := Reads.found_bare form _ _ (by decide) own
    rw [shown, read]
    have save_read : Reads (Save.readFields _) s := Save.reads_found fun field mem =>
      found field (List.mem_cons_of_mem _ (List.mem_append_left _ mem))
    simp only [saveParts, List.cons_append, List.forall_mem_cons, List.forall_mem_append] at found
    obtain ⟨targets, -, tag, success, failure, -⟩ := found
    refine reads_tagged_found tag ?_
    refine .seqLeft ?_ (.noExtras (by decide) own)
    refine .seq ?_ (nested_found failure (fun k => lookup_branchesIn k _)
      (reads_form_branch onFailure failure_told))
    refine .seq ?_ (nested_found success (fun k => lookup_branchesIn k _)
      (reads_form_branch onSuccess success_told))
    exact .seq (.map Effect.save (targets_found targets targets_told)) save_read

/-- Effects that are written are read back from any index on. -/
theorem reads_form_all : ∀ (effects : List Effect) (n : Nat), AllTold form effects →
    Reads (readItems n (writeAll form effects)) effects
  | [], _, _ => by
    rw [writeAll, readItems]
    exact .pure []
  | effect :: effects, n, told => by
    rw [writeAll, readItems]
    exact .map (fun p => p.1 :: p.2)
      (.pair ((reads_form effect told.1).inside _) (reads_form_all effects (n + 1) told.2))

theorem reads_form_list (effects : List Effect) (told : AllTold form effects) :
    Reads (readList (.arr (writeAll form effects))) effects := by
  rw [readList]
  exact reads_form_all effects 0 told

theorem reads_form_branch (effects : List Effect) (told : AllTold form effects) :
    Reads (readBranch (.arr (writeAll form effects))) effects := by
  rw [readBranch]
  exact reads_form_all effects 0 told

end

end Effect

end Bestiary
