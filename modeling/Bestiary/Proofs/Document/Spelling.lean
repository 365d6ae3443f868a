import Bestiary.Template
import Bestiary.Proofs.Document.Form
/-!
# Spelling — documents with their fields spelled in another way

A document is respelled by giving some of its declared fields, at any depth, under their other spelling (`Respelled`);
everything else stays as it is.  Where no object gives a field twice, the same fields are found in a respelled object and
the same keys are left over (`matched_of_respelled`).
-/
namespace Bestiary

/-- What stands at a place of a document: a record, a list, a branch of a save, or a value that declares no fields. -/
inductive Shape where
  | value
  | area
  | targeting
  | save
  | effect
  | branch
  | trigger
  | action
  | recharge
  | entry
  | creature
  | template
  | list (item : Shape)
  deriving DecidableEq

namespace Shape

/-- Fields that declare none themselves. -/
def flat (keys : List Key) : List (Key × Shape) := keys.map fun key => (key, .value)

/-- The fields of an effect of a kind. -/
def effectFields : EffectKind → List (Key × Shape)
  | .damage =>
    [(Field.targets, .targeting), (Field.kind, .value), (Field.damage, .value), (Field.damageType, .value),
      (Field.save, .save)]
  | .healing => [(Field.targets, .targeting), (Field.kind, .value), (Field.healing, .value)]
  | .condition =>
    [(Field.targets, .targeting), (Field.kind, .value), (Field.condition, .value), (Field.duration, .value),
      (Field.save, .save)]
  | .movement =>
    [(Field.targets, .targeting), (Field.kind, .value), (Field.distance, .value), (Field.direction, .value),
      (Field.save, .save)]
  | .summon =>
    [(Field.targets, .targeting), (Field.kind, .value), (Field.creature, .value), (Field.count, .value),
      (Field.position, .value)]
  | .area =>
    [(Field.targets, .targeting), (Field.kind, .value), (Field.area, .area), (Field.effects, .list .effect)]
  | .save =>
    (Field.targets, .targeting) :: flat Save.keys ++
      [(Field.kind, .value), (Field.onSuccess, .branch), (Field.onFailure, .branch)]
  | .custom => [(Field.targets, .targeting), (Field.kind, .value), (Field.payload, .value)]

/-- The kind of effect that an object says it is. -/
def kindIn (es : Entries) : Option EffectKind :=
  match es.lookup "type" with
  | some (.str s) => Tag.ofName? s
  | _ => none

/-- The fields that an object declares. -/
def fields : Shape → Entries → List (Key × Shape)
  | .area, _ => flat Area.keys
  | .targeting, _ => [(Field.kind, .value), (Field.count, .value), (Field.ids, .value), (Field.area, .area)]
  | .save, _ => flat Save.keys
  | .effect, es | .branch, es => (kindIn es).elim [] effectFields
  | .trigger, _ => flat Trigger.keys
  | .action, _ =>
    [(Field.id, .value), (Field.name, .value), (Field.description, .value), (Field.kind, .value),
      (Field.cost, .value), (Field.trigger, .trigger), (Field.recharge, .value), (Field.phase, .value),
      (Field.effects, .list .effect)]
  | .recharge, _ => flat Recharge.keys
  | .entry, _ => flat HistoryEntry.keys
  | .creature, _ =>
    [(Field.id, .value), (Field.name, .value), (Field.kind, .value), (Field.description, .value),
      (Field.actions, .list .action), (Field.maxLegendaryActions, .value), (Field.remainingLegendaryActions, .value),
      (Field.maxMythicActions, .value), (Field.remainingMythicActions, .value), (Field.mythicPhaseActive, .value),
      (Field.paragonPhases, .value), (Field.currentParagonPhase, .value), (Field.villainActionsPerRound, .value),
      (Field.usedVillainActionsThisRound, .value), (Field.rechargeAbilities, .list .recharge),
      (Field.resistances, .value), (Field.immunities, .value), (Field.vulnerabilities, .value),
      (Field.actionHistory, .list .entry)]
  | .template, _ =>
    [(Field.id, .value), (Field.name, .value), (Field.category, .value), (Field.description, .value),
      (Field.maxLegendaryActions, .value), (Field.maxMythicActions, .value), (Field.paragonPhases, .value),
      (Field.villainActionsPerRound, .value), (Field.rechargeAbilities, .list .recharge),
      (Field.actions, .list .action)]
  | .value, _ | .list _, _ => []

/-- No two fields of a record share a spelling. -/
theorem distinct (shape : Shape) (es : Entries) : Key.Distinct ((shape.fields es).map (·.1)) := by
  have effects : Key.Distinct (((kindIn es).elim [] effectFields).map (·.1)) := by
    cases kindIn es with
    | none => exact .nil
    | some kind => cases kind <;> decide
  cases shape with
  | effect | branch => exact effects
  | value | list => exact .nil
  | _ =>
    rw [fields]
    decide

/-- What the items of a list are. -/
def item? : Shape → Option Shape
  | .list item => some item
  | .branch => some .effect
  | _ => none

end Shape

/-- No field of an object is given twice, in the same spelling or in both. -/
def Once (fields : List (Key × Shape)) (es : Entries) : Prop :=
  es.Pairwise fun x y => ∀ field ∈ fields, x.1 ∈ field.1.spellings → y.1 ∉ field.1.spellings

instance (fields : List (Key × Shape)) (es : Entries) : Decidable (Once fields es) := by
  unfold Once
  infer_instance

mutual

/-- **A document with some of its declared fields spelled in another way**, at any depth. -/
inductive Respelled : Shape → Json → Json → Prop where
  | same {shape j} : Respelled shape j j
  | items {shape item xs ys} (listed : shape.item? = some item) (each : RespelledItems item xs ys) :
      Respelled shape (.arr xs) (.arr ys)
  | record {shape es fs} (each : RespelledEntries (shape.fields es) es fs) (once : Once (shape.fields es) es) :
      Respelled shape (.obj es) (.obj fs)

inductive RespelledItems : Shape → List Json → List Json → Prop where
  | nil {item} : RespelledItems item [] []
  | cons {item x y xs ys} (first : Respelled item x y) (rest : RespelledItems item xs ys) :
      RespelledItems item (x :: xs) (y :: ys)

inductive RespelledEntries : List (Key × Shape) → Entries → Entries → Prop where
  | nil {fields} : RespelledEntries fields [] []
  | kept {fields x es fs} (rest : RespelledEntries fields es fs) : RespelledEntries fields (x :: es) (x :: fs)
  | field {fields k l v w es fs} (key : Key) (shape : Shape) (declared : (key, shape) ∈ fields)
      (before : k ∈ key.spellings) (after : l ∈ key.spellings) (value : Respelled shape v w)
      (rest : RespelledEntries fields es fs) :
      RespelledEntries fields ((k, v) :: es) ((l, w) :: fs)

end

/-! ## Fields that are given once -/

namespace Key

/-- Whether an entry gives the field. -/
def gives (key : Key) (x : String × Json) : Bool := decide (x.1 ∈ key.spellings)

theorem gives_iff {key : Key} {x : String × Json} : key.gives x = true ↔ x.1 ∈ key.spellings := decide_eq_true_iff

/-- Which spelling counts is no question where a field is given once. -/
theorem find?_of_once {key : Key} : ∀ {es : Entries},
    es.Pairwise (fun x y => x.1 ∈ key.spellings → y.1 ∉ key.spellings) → key.find? es = es.find? key.gives
  | [], _ => rfl
  | (k, v) :: es, once => by
    obtain ⟨first, rest⟩ := List.pairwise_cons.1 once
    by_cases own : k ∈ key.spellings
    · have absent (s : String) (spelled : s ∈ key.spellings) : es.lookup s = none :=
        Entries.lookup_eq_none fun x hx same => first x hx own (same ▸ spelled)
      rw [List.find?_cons_of_pos (by simpa [gives] using own)]
      unfold find?
      by_cases camel : key.camel = k
      · rw [camel, List.lookup_cons_self]
      · have snake : key.snake = k := by
          simp only [spellings, List.mem_cons, List.not_mem_nil, or_false] at own
          exact (own.resolve_left (Ne.symm camel)).symm
        rw [List.lookup_cons, beq_false_of_ne camel, absent _ (by simp [spellings]), snake, List.lookup_cons_self]
        rfl
    · have other (s : String) (spelled : s ∈ key.spellings) : ((k, v) :: es).lookup s = es.lookup s := by
        have unlike : s ≠ k := fun same => own (same ▸ spelled)
        rw [List.lookup_cons, beq_false_of_ne unlike]
      rw [List.find?_cons_of_neg (by simpa [gives] using own), ← find?_of_once rest]
      unfold find?
      rw [other key.camel (by simp [spellings]), other key.snake (by simp [spellings])]

theorem used?_eq_some_iff {key : Key} {es : Entries}
    (once : es.Pairwise fun x y => x.1 ∈ key.spellings → y.1 ∉ key.spellings) {x : String × Json} (mem : x ∈ es) :
    key.used? es = some x.1 ↔ x.1 ∈ key.spellings := by
  rw [used?, find?_of_once once]
  constructor
  · intro used
    obtain ⟨y, found, same⟩ := Option.map_eq_some_iff.1 used
    rw [← same]
    exact gives_iff.1 (List.find?_some found)
  · intro spelled
    obtain ⟨y, found⟩ := Option.isSome_iff_exists.1 (List.find?_isSome.2 ⟨x, mem, gives_iff.2 spelled⟩)
    have given := gives_iff.1 (List.find?_some found)
    -- Two entries that give the field are one.
    have same : y = x := by
      by_contra other
      have : Std.Symm fun x y : String × Json => x.1 ∈ key.spellings → y.1 ∉ key.spellings :=
        ⟨fun _ _ h hy hx => h hx hy⟩
      exact List.Pairwise.forall once (List.mem_of_find?_eq_some found) mem other given spelled
    rw [found, same]
    rfl

end Key

/-- Whether an entry gives none of the fields. -/
def leftOver (fields : List (Key × Shape)) (x : String × Json) : Bool := !fields.any fun field => field.1.gives x

namespace Once

variable {fields : List (Key × Shape)} {es : Entries}

theorem of_mem (once : Once fields es) {field : Key × Shape} (mem : field ∈ fields) :
    es.Pairwise fun x y => x.1 ∈ field.1.spellings → y.1 ∉ field.1.spellings :=
  once.imp fun apart => apart field mem

/-- What no field takes is what gives no field. -/
theorem rest_eq (once : Once fields es) :
    Key.rest (fields.map (·.1)) es = es.filter (leftOver fields) := by
  refine List.filter_congr fun x mem => congrArg _ ?_
  rw [Bool.eq_iff_iff, List.contains_iff_mem, List.mem_filterMap, List.any_eq_true]
  constructor
  · rintro ⟨key, listed, used⟩
    obtain ⟨field, declared, rfl⟩ := List.mem_map.1 listed
    exact ⟨field, declared, Key.gives_iff.2 ((Key.used?_eq_some_iff (once.of_mem declared) mem).1 used)⟩
  · rintro ⟨field, declared, gives⟩
    exact ⟨field.1, List.mem_map_of_mem declared,
      (Key.used?_eq_some_iff (once.of_mem declared) mem).2 (Key.gives_iff.1 gives)⟩

end Once

/-! ## Respelled objects -/

/-- How a field stands in an object and in what it is respelled as. -/
def Paired (shape : Shape) (key : Key) (es fs : Entries) : Prop :=
  Option.Rel (fun x y => Respelled shape x.2 y.2) (key.find? es) (key.find? fs)

theorem filter_respelled {fields : List (Key × Shape)} : ∀ {es fs : Entries}, RespelledEntries fields es fs →
    es.filter (leftOver fields) = fs.filter (leftOver fields)
  | [], _, h => by
    cases h
    rfl
  | x :: es, _, h => by
    cases h with
    | kept rest => rw [List.filter_cons, List.filter_cons, filter_respelled rest]
    | @field _ k l v w _ _ key shape declared before after value rest =>
      have taken (s : String) (j : Json) (spelled : s ∈ key.spellings) :
          ¬leftOver fields (s, j) = true := by
        rw [Bool.not_eq_true, leftOver, Bool.not_eq_false', List.any_eq_true]
        exact ⟨_, declared, Key.gives_iff.2 spelled⟩
      rw [List.filter_cons_of_neg (taken k v before), List.filter_cons_of_neg (taken l w after), filter_respelled rest]

section Respelled

variable {fields : List (Key × Shape)} (distinct : Key.Distinct (fields.map (·.1)))
include distinct

/-- Respelling an entry leaves it with the field that it gives. -/
theorem gives_respelled {key : Key} {shape : Shape} {k l : String} (declared : (key, shape) ∈ fields)
    (before : k ∈ key.spellings) (after : l ∈ key.spellings) (v w : Json) {field : Key × Shape} (mem : field ∈ fields) :
    field.1.gives (k, v) = field.1.gives (l, w) := by
  have own {s : String} (spelled : s ∈ key.spellings) (given : s ∈ field.1.spellings) : field.1 = key :=
    distinct.eq_of_mem (List.mem_map_of_mem mem) (List.mem_map_of_mem declared) given spelled
  rw [Bool.eq_iff_iff, Key.gives_iff, Key.gives_iff]
  exact ⟨fun given => own before given ▸ after, fun given => own after given ▸ before⟩

theorem find?_respelled {field : Key × Shape} (mem : field ∈ fields) : ∀ {es fs : Entries},
    RespelledEntries fields es fs →
      Option.Rel (fun x y => Respelled field.2 x.2 y.2) (es.find? field.1.gives) (fs.find? field.1.gives)
  | [], _, h => by
    cases h
    exact .none
  | x :: es, _, h => by
    cases h with
    | kept rest =>
      by_cases given : field.1.gives x = true
      · rw [List.find?_cons_of_pos given, List.find?_cons_of_pos given]
        exact .some .same
      · rw [List.find?_cons_of_neg given, List.find?_cons_of_neg given]
        exact find?_respelled mem rest
    | @field _ k l v w _ _ key shape declared before after value rest =>
      have same := gives_respelled distinct declared before after v w mem
      by_cases given : field.1.gives (k, v) = true
      · have own : field.1 = key := distinct.eq_of_mem (List.mem_map_of_mem mem) (List.mem_map_of_mem declared)
          (Key.gives_iff.1 given) before
        have shaped : field = (key, shape) := List.inj_on_of_nodup_map distinct.nodup mem declared own
        rw [List.find?_cons_of_pos given, List.find?_cons_of_pos (same ▸ given), shaped]
        exact .some value
      · rw [List.find?_cons_of_neg given, List.find?_cons_of_neg (same ▸ given)]
        exact find?_respelled mem rest

theorem exists_of_mem_respelled : ∀ {es fs : Entries}, RespelledEntries fields es fs → ∀ y ∈ fs,
    ∃ x ∈ es, ∀ field ∈ fields, field.1.gives x = field.1.gives y
  | [], _, h, y, mem => by
    cases h
    cases mem
  | x :: es, _, h, y, mem => by
    cases h with
    | kept rest =>
      rcases List.mem_cons.1 mem with rfl | later
      · exact ⟨y, List.mem_cons_self, fun _ _ => rfl⟩
      · obtain ⟨x, there, same⟩ := exists_of_mem_respelled rest y later
        exact ⟨x, List.mem_cons_of_mem _ there, same⟩
    | @field _ k l v w _ _ key shape declared before after value rest =>
      rcases List.mem_cons.1 mem with rfl | later
      · exact ⟨(k, v), List.mem_cons_self, fun _ => gives_respelled distinct declared before after v w⟩
      · obtain ⟨x, there, same⟩ := exists_of_mem_respelled rest y later
        exact ⟨x, List.mem_cons_of_mem _ there, same⟩

theorem once_respelled : ∀ {es fs : Entries}, RespelledEntries fields es fs → Once fields es → Once fields fs
  | [], _, h, _ => by
    cases h
    exact .nil
  | x :: es, _, h, once => by
    obtain ⟨first, later⟩ := List.pairwise_cons.1 once
    have apart {x' : String × Json} {fs : Entries} (rest : RespelledEntries fields es fs)
        (same : ∀ field ∈ fields, field.1.gives x = field.1.gives x') :
        ∀ y ∈ fs, ∀ field ∈ fields, x'.1 ∈ field.1.spellings → y.1 ∉ field.1.spellings := by
      intro y mem field declared given again
      obtain ⟨z, there, alike⟩ := exists_of_mem_respelled distinct rest y mem
      rw [← Key.gives_iff, ← same field declared, Key.gives_iff] at given
      rw [← Key.gives_iff, ← alike field declared, Key.gives_iff] at again
      exact first z there field declared given again
    cases h with
    | kept rest => exact List.pairwise_cons.2 ⟨apart rest fun _ _ => rfl, once_respelled rest later⟩
    | field key shape declared before after value rest =>
      exact List.pairwise_cons.2 ⟨apart rest fun _ => gives_respelled distinct declared before after _ _,
        once_respelled rest later⟩

end Respelled

/-- **Objects in which the same fields are found and the same keys left over.** -/
structure Matched (fields : List (Key × Shape)) (es fs : Entries) : Prop where
  paired : ∀ field ∈ fields, Paired field.2 field.1 es fs
  rest : Key.rest (fields.map (·.1)) es = Key.rest (fields.map (·.1)) fs

theorem matched_of_respelled {fields : List (Key × Shape)} (distinct : Key.Distinct (fields.map (·.1)))
    {es fs : Entries} (once : Once fields es) (each : RespelledEntries fields es fs) : Matched fields es fs where
  paired field mem := by
    have again := once_respelled distinct each once
    rw [Paired, Key.find?_of_once (once.of_mem mem), Key.find?_of_once (again.of_mem mem)]
    exact find?_respelled distinct mem each
  rest := by
    rw [once.rest_eq, (once_respelled distinct each once).rest_eq]
    exact filter_respelled each

end Bestiary
