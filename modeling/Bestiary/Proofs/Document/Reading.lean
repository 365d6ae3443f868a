import Bestiary.Creature
import Bestiary.Proofs.Document.Agreement
import Bestiary.Proofs.Document.Effect
import Bestiary.Proofs.Document.Spelling
import Bestiary.Proofs.Encounter.Backdrop
/-!
# Reading — how the fields of a document are spelled does not matter

Every record is read field by field, and fields are read alike in an object and in what it is respelled as
(`Paired.required` and the rest).  Effects nest, so the law goes down with the document (`nested_agree`).
-/
namespace Bestiary

open Intake (Agree)

variable {α : Type} {v w : Json} {es fs : Entries}

/-! ## Values and fields -/

theorem respelled_undeclared : ∀ {es fs : Entries}, RespelledEntries [] es fs → es = fs
  | [], _, h => by
    cases h
    rfl
  | _ :: _, _, h => by
    cases h with
    | kept rest => rw [respelled_undeclared rest]
    | field key shape declared => cases declared

/-- A value that declares no fields is left as it is. -/
theorem respelled_value (h : Respelled .value v w) : v = w := by
  cases h with
  | same => rfl
  | items listed => cases listed
  | record each => rw [respelled_undeclared each]

theorem Intake.Agree.of_value {read : Json → Intake α} (h : Respelled .value v w) : Agree (read v) (read w) := by
  rw [respelled_value h]
  exact .refl _

theorem Intake.Agree.nullable {shape : Shape} {read : Json → Intake α} (h : Respelled shape v w)
    (agree : Agree (read v) (read w)) : Agree (Intake.nullable read v) (Intake.nullable read w) := by
  cases h with
  | same => exact .refl _
  | items => exact .map some agree
  | record => exact .map some agree

theorem Intake.Agree.itemsFrom {item : Shape} {read : Json → Intake α} : ∀ {xs ys : List Json} (n : Nat),
    RespelledItems item xs ys → (∀ x ∈ xs, ∀ y, Respelled item x y → Agree (read x) (read y)) →
      Agree (Intake.itemsFrom read n xs) (Intake.itemsFrom read n ys)
  | [], _, n, h, _ => by
    cases h
    exact .refl _
  | x :: xs, _, n, h, agree => by
    cases h with
    | cons first rest =>
      have head := agree x List.mem_cons_self _ first
      have tail := itemsFrom (n + 1) rest fun z mem => agree z (List.mem_cons_of_mem _ mem)
      exact .map (fun (p : α × List α) => p.1 :: p.2) (.pair (.inside _ _ head) tail)

theorem Intake.Agree.list {item : Shape} {read : Json → Intake α}
    (agree : ∀ {x y}, Respelled item x y → Agree (read x) (read y)) (h : Respelled (.list item) v w) :
    Agree (Intake.list read v) (Intake.list read w) := by
  cases h with
  | same => exact .refl _
  | items listed each =>
    cases listed
    exact .itemsFrom 0 each fun x _ y => agree
  | record => exact .refl _

namespace Paired

variable {shape : Shape} {key : Key} {read : Json → Intake α}

theorem required (h : Paired shape key es fs) (agree : ∀ {x y}, Respelled shape x y → Agree (read x) (read y)) :
    Agree (Intake.required es key read) (Intake.required fs key read) := by
  unfold Paired at h
  unfold Intake.required
  generalize key.find? es = x at h
  generalize key.find? fs = y at h
  cases h with
  | some value => exact .inside _ _ (agree value)
  | none => exact .refl _

theorem made {make : Intake α} (h : Paired shape key es fs)
    (agree : ∀ {x y}, Respelled shape x y → Agree (read x) (read y)) :
    Agree (Intake.made es key make read) (Intake.made fs key make read) := by
  unfold Paired at h
  unfold Intake.made
  generalize key.find? es = x at h
  generalize key.find? fs = y at h
  cases h with
  | some value => exact .inside _ _ (agree value)
  | none => exact .refl _

theorem field {absent : α} (h : Paired shape key es fs)
    (agree : ∀ {x y}, Respelled shape x y → Agree (read x) (read y)) :
    Agree (Intake.field es key absent read) (Intake.field fs key absent read) :=
  h.made agree

theorem optional (h : Paired shape key es fs) (agree : ∀ {x y}, Respelled shape x y → Agree (read x) (read y)) :
    Agree (Intake.optional es key read) (Intake.optional fs key read) :=
  h.field fun value => .nullable value (agree value)

end Paired

namespace Matched

variable {fields : List (Key × Shape)} {keys : List Key}

theorem extras (h : Matched fields es fs) (own : fields.map (·.1) = keys) :
    Agree (Intake.extras es keys) (Intake.extras fs keys) := by
  subst own
  have same : Extras.ofEntries (fields.map (·.1)) es = Extras.ofEntries (fields.map (·.1)) fs := by
    simp only [Extras.ofEntries, h.rest]
  rw [Intake.extras, Intake.extras, same]
  exact .refl _

theorem noExtras (h : Matched fields es fs) (own : fields.map (·.1) = keys) :
    Agree (Intake.noExtras es keys) (Intake.noExtras fs keys) := by
  subst own
  unfold Intake.noExtras
  rw [h.rest]
  exact .refl _

end Matched

/-- A record is read alike if it is from objects in which the same fields are found. -/
theorem Respelled.record_agree {shape : Shape} {name : String} {read : Entries → Intake α}
    (agree : ∀ {es fs}, Matched (shape.fields es) es fs → Agree (read es) (read fs)) (h : Respelled shape v w) :
    Agree (Intake.record name read v) (Intake.record name read w) := by
  cases h with
  | same => exact .refl _
  | items => exact .refl _
  | record each once => exact agree (matched_of_respelled (shape.distinct _) once each)

/-! ## Records -/

theorem area_agree : Respelled .area v w → Agree (Area.read v) (Area.read w) := by
  refine Respelled.record_agree fun matched => ?_
  have paired := matched.paired
  simp only [Shape.fields, Shape.flat, Area.keys, List.map_cons, List.map_nil, List.forall_mem_cons] at paired
  obtain ⟨shape, size, origin, -⟩ := paired
  refine .seq ?_ (matched.extras rfl)
  refine .seq ?_ (origin.field .of_value)
  refine .seq ?_ (size.optional .of_value)
  exact .map Area.mk (shape.optional .of_value)

theorem targeting_agree : Respelled .targeting v w → Agree (Targeting.read v) (Targeting.read w) := by
  refine Respelled.record_agree fun matched => ?_
  have paired := matched.paired
  simp only [Shape.fields, List.forall_mem_cons] at paired
  obtain ⟨kind, count, ids, area, -⟩ := paired
  refine .seqLeft ?_ (matched.noExtras rfl)
  refine .seq ?_ (area.optional area_agree)
  refine .seq ?_ (ids.field .of_value)
  refine .seq ?_ (count.field .of_value)
  exact .map Targeting.mk (kind.required .of_value)

/-- A save is read alike off its fields, wherever they stand. -/
theorem saveFields_agree (paired : ∀ field ∈ Shape.flat Save.keys, Paired field.2 field.1 es fs) :
    Agree (Save.readFields es) (Save.readFields fs) := by
  simp only [Shape.flat, Save.keys, List.map_cons, List.map_nil, List.forall_mem_cons] at paired
  obtain ⟨ability, dc, advantage, disadvantage, half, negate, duration, distance, -⟩ := paired
  refine .seq ?_ (distance.field .of_value)
  refine .seq ?_ (duration.field .of_value)
  refine .seq ?_ (negate.field .of_value)
  refine .seq ?_ (half.field .of_value)
  refine .seq ?_ (disadvantage.field .of_value)
  refine .seq ?_ (advantage.field .of_value)
  refine .seq ?_ (dc.optional .of_value)
  exact .map Save.mk (ability.optional .of_value)

theorem save_agree : Respelled .save v w → Agree (Save.read v) (Save.read w) :=
  Respelled.record_agree fun matched =>
    .seqLeft (saveFields_agree matched.paired) (matched.noExtras rfl)

theorem trigger_agree : Respelled .trigger v w → Agree (Trigger.read v) (Trigger.read w) := by
  refine Respelled.record_agree fun matched => ?_
  have paired := matched.paired
  simp only [Shape.fields, Shape.flat, Trigger.keys, List.map_cons, List.map_nil, List.forall_mem_cons] at paired
  obtain ⟨kind, range, damageType, level, distance, -⟩ := paired
  refine .seq ?_ (matched.extras rfl)
  refine .seq ?_ (distance.optional .of_value)
  refine .seq ?_ (level.optional .of_value)
  refine .seq ?_ (damageType.optional .of_value)
  refine .seq ?_ (range.optional .of_value)
  exact .map Trigger.mk (kind.required .of_value)

theorem recharge_agree : Respelled .recharge v w → Agree (Recharge.read v) (Recharge.read w) := by
  refine Respelled.record_agree fun matched => ?_
  have paired := matched.paired
  simp only [Shape.fields, Shape.flat, Recharge.keys, List.map_cons, List.map_nil, List.forall_mem_cons] at paired
  obtain ⟨action, threshold, charged, -⟩ := paired
  refine .seqLeft ?_ (matched.noExtras rfl)
  refine .seq ?_ (charged.field .of_value)
  refine .seq ?_ (threshold.field .of_value)
  exact .map Recharge.mk (action.required .of_value)

theorem entry_agree : Respelled .entry v w → Agree (HistoryEntry.read v) (HistoryEntry.read w) := by
  refine Respelled.record_agree fun matched => ?_
  have paired := matched.paired
  simp only [Shape.fields, Shape.flat, HistoryEntry.keys, List.map_cons, List.map_nil, List.forall_mem_cons] at paired
  obtain ⟨action, name, kind, cost, round, success, timestamp, -⟩ := paired
  refine .seqLeft ?_ (matched.noExtras rfl)
  refine .seq ?_ (timestamp.made .of_value)
  refine .seq ?_ (success.field .of_value)
  refine .seq ?_ (round.field .of_value)
  refine .seq ?_ (cost.field .of_value)
  refine .seq ?_ (kind.required .of_value)
  refine .seq ?_ (name.required .of_value)
  exact .map HistoryEntry.mk (action.required .of_value)

/-! ## Effects -/

namespace Effect

theorem targets_agree (paired : Paired .targeting Field.targets es fs) : Agree (readTargets es) (readTargets fs) :=
  paired.optional targeting_agree

theorem own_save_agree (paired : Paired .save Field.save es fs) : Agree (readSave es) (readSave fs) :=
  paired.optional save_agree

/-- Nested effects are read alike if the lists that a field gives are. -/
theorem nested_agree {shape : Shape} {key : Key} {nested nested' : Nested} {reading : Json → Intake (List Effect)}
    (paired : Paired shape key es fs) (there : ∀ k, nested.lookup k = (es.lookup k).map reading)
    (there' : ∀ k, nested'.lookup k = (fs.lookup k).map reading)
    (agree : ∀ {k x y}, (k, x) ∈ es → Respelled shape x y → Agree (reading x) (reading y)) :
    Agree (readNested es nested key) (readNested fs nested' key) := by
  unfold Paired at paired
  unfold readNested
  generalize found : key.find? es = x at paired
  generalize found' : key.find? fs = y at paired
  cases paired with
  | none => exact .refl _
  | @some x y value =>
    have own := Key.lookup_of_find? found
    dsimp only
    rw [there, there', own, Key.lookup_of_find? found']
    exact .inside _ _ (agree (Entries.mem_of_lookup own) value)

theorem readTagged_of_kindIn {lists branches : Nested} {kind : EffectKind} (told : Shape.kindIn es = some kind) :
    readTagged es lists branches = Intake.inside (.key kind.name) (readKind es lists branches kind) := by
  unfold Shape.kindIn at told
  split at told
  · rename_i s tag
    simp only [readTagged, tag, told]
    cases kind <;> rfl
  · cases told

theorem kindIn_matched (paired : Paired .value Field.kind es fs) : Shape.kindIn fs = Shape.kindIn es := by
  have alike (es : Entries) : es.lookup "type" = (Field.kind.find? es).map (·.2) := by
    unfold Key.find? Field.kind Key.word
    cases es.lookup "type" <;> rfl
  have same : fs.lookup "type" = es.lookup "type" := by
    unfold Paired at paired
    rw [alike fs, alike es]
    generalize Field.kind.find? es = x at paired
    generalize Field.kind.find? fs = y at paired
    cases paired with
    | none => rfl
    | some value => exact congrArg some (respelled_value value).symm
  unfold Shape.kindIn
  rw [same]

/-- Lists of effects and branches are read alike where respelling makes them from values of an object. -/
structure NestedAgree (es : Entries) : Prop where
  lists : ∀ {k x y}, (k, x) ∈ es → Respelled (.list .effect) x y → Agree (readList x) (readList y)
  branches : ∀ {k x y}, (k, x) ∈ es → Respelled .branch x y → Agree (readBranch x) (readBranch y)

/-- An effect of a kind is read alike if what it nests is. -/
theorem kind_agree (nested : NestedAgree es) {kind : EffectKind} (matched : Matched (Shape.effectFields kind) es fs) :
    Agree (readKind es (listsIn es) (branchesIn es) kind) (readKind fs (listsIn fs) (branchesIn fs) kind) := by
  have paired := matched.paired
  cases kind with
  | damage =>
    simp only [Shape.effectFields, List.forall_mem_cons] at paired
    obtain ⟨targets, -, damage, damageType, save, -⟩ := paired
    refine .seqLeft ?_ (matched.noExtras rfl)
    refine .seq ?_ (own_save_agree save)
    refine .seq ?_ (damageType.optional .of_value)
    refine .seq ?_ (damage.field .of_value)
    exact .map _ (targets_agree targets)
  | healing =>
    simp only [Shape.effectFields, List.forall_mem_cons] at paired
    obtain ⟨targets, -, healing, -⟩ := paired
    refine .seqLeft ?_ (matched.noExtras rfl)
    refine .seq ?_ (healing.field .of_value)
    exact .map _ (targets_agree targets)
  | condition =>
    simp only [Shape.effectFields, List.forall_mem_cons] at paired
    obtain ⟨targets, -, condition, duration, save, -⟩ := paired
    refine .seqLeft ?_ (matched.noExtras rfl)
    refine .seq ?_ (own_save_agree save)
    refine .seq ?_ (duration.optional .of_value)
    refine .seq ?_ (condition.required .of_value)
    exact .map _ (targets_agree targets)
  | movement =>
    simp only [Shape.effectFields, List.forall_mem_cons] at paired
    obtain ⟨targets, -, distance, direction, save, -⟩ := paired
    refine .seqLeft ?_ (matched.noExtras rfl)
    refine .seq ?_ (own_save_agree save)
    refine .seq ?_ (direction.optional .of_value)
    refine .seq ?_ (distance.field .of_value)
    exact .map _ (targets_agree targets)
  | summon =>
    simp only [Shape.effectFields, List.forall_mem_cons] at paired
    obtain ⟨targets, -, creature, count, position, -⟩ := paired
    refine .seqLeft ?_ (matched.noExtras rfl)
    refine .seq ?_ (position.field .of_value)
    refine .seq ?_ (count.field .of_value)
    refine .seq ?_ (creature.field .of_value)
    exact .map _ (targets_agree targets)
  | area =>
    simp only [Shape.effectFields, List.forall_mem_cons] at paired
    obtain ⟨targets, -, area, effects, -⟩ := paired
    refine .seqLeft ?_ (matched.noExtras rfl)
    refine .seq ?_ (nested_agree effects (fun k => lookup_listsIn k es) (fun k => lookup_listsIn k fs) nested.lists)
    refine .seq ?_ (area.optional area_agree)
    exact .map _ (targets_agree targets)
  | save =>
    simp only [Shape.effectFields, List.cons_append, List.forall_mem_cons, List.forall_mem_append] at paired
    obtain ⟨targets, fields, -, success, failure, -⟩ := paired
    have inner {key : Key} (branch : Paired .branch key es fs) :=
      nested_agree branch (fun k => lookup_branchesIn k es) (fun k => lookup_branchesIn k fs) nested.branches
    refine .seqLeft ?_ (matched.noExtras rfl)
    refine .seq ?_ (inner failure)
    refine .seq ?_ (inner success)
    refine .seq ?_ (saveFields_agree fields)
    exact .map _ (targets_agree targets)
  | custom =>
    simp only [Shape.effectFields, List.forall_mem_cons] at paired
    obtain ⟨targets, -, payload, -⟩ := paired
    refine .seq ?_ (matched.extras rfl)
    refine .seq ?_ (payload.field .of_value)
    exact .map _ (targets_agree targets)

theorem tagged_agree (nested : NestedAgree es) (once : Once (Shape.effect.fields es) es)
    (each : RespelledEntries (Shape.effect.fields es) es fs) :
    Agree (readTagged es (listsIn es) (branchesIn es)) (readTagged fs (listsIn fs) (branchesIn fs)) := by
  have matched := matched_of_respelled (Shape.effect.distinct es) once each
  cases told : Shape.kindIn es with
  | none =>
    rw [Shape.fields, told] at each
    rw [respelled_undeclared each]
    exact .refl _
  | some kind =>
    rw [Shape.fields, told] at matched
    have kind_field : (Field.kind, Shape.value) ∈ Shape.effectFields kind := by cases kind <;> decide
    have told' := (kindIn_matched (matched.paired _ kind_field)).trans told
    rw [readTagged_of_kindIn told, readTagged_of_kindIn told']
    exact .inside _ _ (kind_agree nested matched)

mutual

/-- **An effect is read alike however its fields are spelled**, and those of all the effects it nests. -/
theorem read_agree : ∀ {v w : Json}, Respelled .effect v w → Agree (read v) (read w)
  | .obj es, _, h => by
    cases h with
    | same => exact .refl _
    | record each once =>
      rw [read, read]
      exact tagged_agree (values_agree es) once each
  | .arr _, _, h => by
    cases h with
    | same => exact .refl _
    | items listed => cases listed
  | .null, _, .same | .bool _, _, .same | .int _, _, .same | .float _, _, .same | .str _, _, .same
  | .torn _, _, .same => .refl _

theorem readItems_agree : ∀ {xs ys : List Json} (n : Nat), RespelledItems .effect xs ys →
    Agree (readItems n xs) (readItems n ys)
  | [], _, _, .nil => .refl _
  | x :: xs, _, n, .cons first rest => by
    rw [readItems, readItems]
    exact .map (fun p => p.1 :: p.2) (.pair (.inside _ _ (read_agree first)) (readItems_agree (n + 1) rest))

theorem readList_agree : ∀ {v w : Json}, Respelled (.list .effect) v w → Agree (readList v) (readList w)
  | .arr xs, _, h => by
    cases h with
    | same => exact .refl _
    | items listed each =>
      cases listed
      rw [readList, readList]
      exact readItems_agree 0 each
  | .obj es, _, h => by
    cases h with
    | same => exact .refl _
    | record each =>
      rw [respelled_undeclared each]
      exact .refl _
  | .null, _, .same | .bool _, _, .same | .int _, _, .same | .float _, _, .same | .str _, _, .same
  | .torn _, _, .same => .refl _

theorem readBranch_agree : ∀ {v w : Json}, Respelled .branch v w → Agree (readBranch v) (readBranch w)
  | .arr xs, _, h => by
    cases h with
    | same => exact .refl _
    | items listed each =>
      cases listed
      rw [readBranch, readBranch]
      exact readItems_agree 0 each
  | .obj es, _, h => by
    cases h with
    | same => exact .refl _
    | record each once =>
      rw [readBranch, readBranch]
      exact .map _ (.inside _ _ (tagged_agree (values_agree es) once each))
  | .null, _, .same | .bool _, _, .same | .int _, _, .same | .float _, _, .same | .str _, _, .same
  | .torn _, _, .same => .refl _

theorem values_agree : ∀ es : Entries, NestedAgree es
  | [] => ⟨nofun, nofun⟩
  | (_, x) :: es => by
    have later := values_agree es
    have lists {y : Json} (value : Respelled (.list .effect) x y) := readList_agree value
    have branches {y : Json} (value : Respelled .branch x y) := readBranch_agree value
    refine ⟨fun mem value => ?_, fun mem value => ?_⟩
    · rcases List.mem_cons.1 mem with own | there
      · cases own
        exact lists value
      · exact later.lists there value
    · rcases List.mem_cons.1 mem with own | there
      · cases own
        exact branches value
      · exact later.branches there value

end

end Effect

/-! ## Actions, creatures and templates -/

theorem action_agree : Respelled .action v w → Agree (Action.read v) (Action.read w) := by
  refine Respelled.record_agree fun matched => ?_
  have paired := matched.paired
  simp only [Shape.fields, List.forall_mem_cons] at paired
  obtain ⟨id, name, description, kind, cost, trigger, recharge, phase, effects, -⟩ := paired
  refine .seqLeft ?_ (matched.noExtras rfl)
  refine .seq ?_ (effects.field (.list Effect.read_agree))
  refine .seq ?_ (phase.optional .of_value)
  refine .seq ?_ (recharge.optional .of_value)
  refine .seq ?_ (trigger.optional trigger_agree)
  refine .seq ?_ (cost.field .of_value)
  refine .seq ?_ (kind.required .of_value)
  refine .seq ?_ (description.field .of_value)
  refine .seq ?_ (name.required .of_value)
  exact .map Action.mk (id.made .of_value)

theorem creature_agree : Respelled .creature v w → Agree (Creature.read v) (Creature.read w) := by
  refine Respelled.record_agree fun matched => .check _ ?_
  have paired := matched.paired
  simp only [Shape.fields, List.forall_mem_cons] at paired
  obtain ⟨id, name, side, description, actions, maxLegendary, legendary, maxMythic, mythic, mythicActive, phases, phase,
    villainPerRound, villainUsed, recharges, resistances, immunities, vulnerabilities, history, -⟩ := paired
  refine .seqLeft ?_ (matched.noExtras rfl)
  refine .seq ?_ (history.field (.list entry_agree))
  refine .seq ?_ (vulnerabilities.field .of_value)
  refine .seq ?_ (immunities.field .of_value)
  refine .seq ?_ (resistances.field .of_value)
  refine .seq ?_ (recharges.field (.list recharge_agree))
  refine .seq ?_ (villainUsed.field .of_value)
  refine .seq ?_ (villainPerRound.field .of_value)
  refine .seq ?_ (phase.field .of_value)
  refine .seq ?_ (phases.field .of_value)
  refine .seq ?_ (mythicActive.field .of_value)
  refine .seq ?_ (mythic.optional .of_value)
  refine .seq ?_ (maxMythic.field .of_value)
  refine .seq ?_ (legendary.optional .of_value)
  refine .seq ?_ (maxLegendary.field .of_value)
  refine .seq ?_ (actions.field (.list action_agree))
  refine .seq ?_ (description.field .of_value)
  refine .seq ?_ (side.field .of_value)
  refine .seq ?_ (name.required .of_value)
  exact .map Creature.Given.mk (id.made .of_value)

theorem template_agree : Respelled .template v w → Agree (Template.read v) (Template.read w) := by
  refine Respelled.record_agree fun matched => ?_
  have paired := matched.paired
  simp only [Shape.fields, List.forall_mem_cons] at paired
  obtain ⟨id, name, category, description, maxLegendary, maxMythic, phases, villainPerRound, recharges, actions,
    -⟩ := paired
  refine .seqLeft ?_ (matched.noExtras rfl)
  refine .seq ?_ (actions.field (.list action_agree))
  refine .seq ?_ (recharges.optional (.list recharge_agree))
  refine .seq ?_ (villainPerRound.optional .of_value)
  refine .seq ?_ (phases.optional .of_value)
  refine .seq ?_ (maxMythic.optional .of_value)
  refine .seq ?_ (maxLegendary.optional .of_value)
  refine .seq ?_ (description.field .of_value)
  refine .seq ?_ (category.field .of_value)
  refine .seq ?_ (name.required .of_value)
  exact .map Template.mk (id.required .of_value)

/-- **The spelling of keys does not matter.**  A document and what it is respelled as are both accepted as a creature or
both refused, and where they are accepted the creature is the same, as are the ids and the moment that went into it; so
it is with templates. -/
theorem read_respelled (v w : Json) :
    (Respelled .creature v w → ∀ s c t,
      (Creature.read v).run s = (.ok c, t) ↔ (Creature.read w).run s = (.ok c, t)) ∧
    (Respelled .template v w → ∀ s c t,
      (Template.read v).run s = (.ok c, t) ↔ (Template.read w).run s = (.ok c, t)) :=
  ⟨fun respelled s c t => (creature_agree respelled s).accepted_iff c t,
    fun respelled s c t => (template_agree respelled s).accepted_iff c t⟩

/-- A save against a breath, with a spelling of its last field. -/
def breathSave (half : String) : Json := .obj [("ability", .str "dex"), ("dc", .int 15), (half, .bool true)]

/-- A breath, with spellings of two fields. -/
def breath (damageType save : String) (against : Json) : Json :=
  .obj [("type", .str "damage"), ("damage", .str "8d6"), (damageType, .str "fire"), (save, against)]

/-- Someone who breathes. -/
def breather (maxLegendary : String) (effect : Json) : Json :=
  .obj [("name", .str "Dragon"), (maxLegendary, .int 3),
    ("actions", .arr [.obj [("name", .str "Breath"), ("type", .str "lair"), ("effects", .arr [effect])]])]

theorem read_respelled_breather :
    let v := breather "max_legendary_actions" (breath "damageType" "save" (breathSave "half_on_success"))
    let w := breather "maxLegendaryActions" (breath "damage_type" "savingThrow" (breathSave "halfOnSuccess"))
    Respelled .creature v w ∧ ∃ c t, (Creature.read v).run ⟨0, Encounter.evening⟩ = (.ok c, t) ∧
      (Creature.read w).run ⟨0, Encounter.evening⟩ = (.ok c, t) := by
  intro v w
  have save : Respelled .save (breathSave "half_on_success") (breathSave "halfOnSuccess") :=
    .record (.kept (.kept (.field Field.halfOnSuccess .value (by decide) (by decide) (by decide) .same .nil)))
      (by decide)
  have effect : Respelled .effect (breath "damageType" "save" (breathSave "half_on_success"))
      (breath "damage_type" "savingThrow" (breathSave "halfOnSuccess")) :=
    .record (.kept (.kept (.field Field.damageType .value (by decide) (by decide) (by decide) .same
      (.field Field.save .save (by decide) (by decide) (by decide) save .nil)))) (by decide)
  have respelled : Respelled .creature v w :=
    .record (.kept (.field Field.maxLegendaryActions .value (by decide) (by decide) (by decide) .same
      (.field Field.actions (.list .action) (by decide) (by decide) (by decide) (.items rfl (.cons
        (.record (.kept (.kept (.field Field.effects (.list .effect) (by decide) (by decide) (by decide)
          (.items rfl (.cons effect .nil)) .nil))) (by decide)) .nil)) .nil))) (by decide)
  exact ⟨respelled, _, _, rfl, ((read_respelled v w).1 respelled _ _ _).1 rfl⟩

end Bestiary
