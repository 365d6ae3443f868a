import Bestiary.Proofs.Document.Creature
import Bestiary.Proofs.Document.Verdict
/-!
# Copy — what is read of something that was written in the plain form

The plain form spells fields in snake case and leaves out what is null, so it does not tell every extra key from the
fields: one that is null is lost, and any other that is spelled like a field is taken for it (`Form.found_plain`).  Fields of
one word are spelled alike in all forms, so areas and effects lose nulls only (`Effect.copy`, `Effect.reads_copy`); a
trigger is read with the values that extra keys give its fields, or not at all (`Trigger.copy?`, `Action.yields_copy`).
What the plain form tells comes back as it was, and nothing else does (`Action.copy?_eq_self_iff`).
-/
namespace Bestiary

open Intake (Reads Yields)
open Intake.Reads (Found)

/-! ## Entries put over others -/

namespace Entries

theorem put_of_mem {key : String} (value : Json) : ∀ {entries : Entries}, (entries.map (·.1)).Nodup →
    key ∈ entries.map (·.1) →
    entries.put key value = entries.map fun entry => (entry.1, if entry.1 = key then value else entry.2)
  | entry :: entries, once, mem => by
    obtain ⟨fresh, once⟩ := List.nodup_cons.1 once
    rw [put, List.map_cons]
    by_cases same : entry.1 = key
    · have others : entries.map (fun entry => (entry.1, if entry.1 = key then value else entry.2)) = entries := by
        rw [List.map_congr_left (g := id), List.map_id]
        intro other later
        have unlike : other.1 ≠ key := fun again => fresh (List.mem_map.2 ⟨other, later, again.trans same.symm⟩)
        rw [if_neg unlike, id]
      rw [if_pos same, if_pos same, others, same]
    · have later : key ∈ entries.map (·.1) := (List.mem_cons.1 mem).resolve_left (Ne.symm same)
      rw [if_neg same, if_neg same, put_of_mem value once later]

theorem lookup_of_fresh {key : String} {entries : Entries} (fresh : key ∉ entries.map (·.1)) :
    entries.lookup key = none :=
  lookup_eq_none fun _ mem same => fresh (same ▸ List.mem_map_of_mem mem)

/-- **Entries put over others** change those with their keys in place; the rest comes after them. -/
theorem overlay_eq : ∀ {upper base : Entries}, (base.map (·.1)).Nodup → (upper.map (·.1)).Nodup →
    base.overlay upper = base.map (fun entry => (entry.1, (upper.lookup entry.1).getD entry.2)) ++
      upper.filter fun entry => entry.1 ∉ base.map (·.1)
  | [], base, _, _ => by simp [overlay]
  | (key, value) :: upper, base, own, once => by
    obtain ⟨fresh, once⟩ := List.nodup_cons.1 once
    -- The first entry is put already when the others follow, so it counts as one of the base.
    have step : base.overlay ((key, value) :: upper) = (base.put key value).overlay upper := rfl
    have ih := overlay_eq (put_keys_nodup base key value own) once
    rw [step, ih]
    by_cases there : key ∈ base.map (·.1)
    · rw [put_of_mem value own there, List.filter_cons_of_neg (by simpa using there), List.map_map, List.map_map]
      refine congrArg₂ _ (List.map_congr_left fun entry mem => ?_) rfl
      by_cases same : entry.1 = key
      · simp [same, lookup_of_fresh fresh]
      · simp [same, List.lookup_cons, beq_false_of_ne same]
    · have kept : upper.filter (fun entry => entry.1 ∉ (base ++ [(key, value)]).map (·.1)) =
          upper.filter fun entry => entry.1 ∉ base.map (·.1) := by
        refine List.filter_congr fun entry mem => ?_
        have unlike : entry.1 ≠ key := fun same => fresh (List.mem_map.2 ⟨entry, mem, same⟩)
        simp [unlike]
      have unmoved : base.map (fun entry => (entry.1, (upper.lookup entry.1).getD entry.2)) =
          base.map fun entry => (entry.1, (((key, value) :: upper).lookup entry.1).getD entry.2) := by
        refine List.map_congr_left fun entry mem => ?_
        have unlike : entry.1 ≠ key := fun same => there (same ▸ List.mem_map_of_mem mem)
        rw [List.lookup_cons, beq_false_of_ne unlike]
      rw [put_of_fresh value there, kept, List.filter_cons_of_pos (by simpa using there), List.map_append, unmoved]
      simp [lookup_of_fresh fresh]

theorem lookup_overlay {base : Entries} (key : String) : ∀ {upper : Entries}, (upper.map (·.1)).Nodup →
    (base.overlay upper).lookup key = (upper.lookup key).or (base.lookup key)
  | [], _ => rfl
  | (k, v) :: upper, once => by
    obtain ⟨fresh, once⟩ := List.nodup_cons.1 once
    have step : base.overlay ((k, v) :: upper) = (base.put k v).overlay upper := rfl
    rw [step, lookup_overlay key once, List.lookup_cons]
    by_cases same : key = k
    · subst same
      rw [lookup_of_fresh fresh, lookup_put_self, beq_self_eq_true]
      rfl
    · rw [lookup_put_of_ne same, beq_false_of_ne same]

/-- What is left of the entries without nulls is found if it is not null. -/
theorem lookup_dropNulls (key : String) : ∀ {entries : Entries}, (entries.map (·.1)).Nodup →
    entries.dropNulls.lookup key = (entries.lookup key).filter (· ≠ .null)
  | [], _ => rfl
  | (k, v) :: entries, once => by
    obtain ⟨fresh, once⟩ := List.nodup_cons.1 once
    have ih := lookup_dropNulls key once
    by_cases null : v = .null
    · have left : dropNulls ((k, v) :: entries) = dropNulls entries := by simp [dropNulls, null]
      rw [left, ih]
      by_cases same : key = k
      · subst same
        simp [lookup_of_fresh fresh, null, Option.filter_some]
      · rw [List.lookup_cons, beq_false_of_ne same]
    · have left : dropNulls ((k, v) :: entries) = (k, v) :: dropNulls entries := by simp [dropNulls, null]
      rw [left, List.lookup_cons, List.lookup_cons, ih]
      cases key == k <;> simp [null, Option.filter_some]

end Entries

/-! ## Extra keys in the plain form -/

namespace Extras

variable {keys : List Key}

/-- The extra keys that are not null and not spelled like a field in snake case. -/
def spare (x : Extras keys) : Extras keys where
  entries := x.entries.filter fun entry => entry.2 ≠ .null ∧ entry.1 ∉ keys.map (·.snake)
  once := x.once.sublist (List.Sublist.map _ List.filter_sublist)
  apart := fun entry mem => x.apart entry (List.mem_of_mem_filter mem)

theorem spare_eq_iff {x : Extras keys} :
    x.spare = x ↔ ∀ entry ∈ x.entries, entry.2 ≠ .null ∧ entry.1 ∉ keys.map (·.snake) := by
  have fields : x.spare = x ↔ x.spare.entries = x.entries := by
    cases x
    simp [spare]
  rw [fields, spare, List.filter_eq_self]
  simp

theorem spare_spare (x : Extras keys) : x.spare.spare = x.spare := by
  rw [spare_eq_iff]
  intro entry mem
  simpa using (List.mem_filter.1 mem).2

end Extras

namespace Form

variable {keys : List Key} {fields : List (Key × Json)} {x : Extras keys}

/-- The fields with the values that extra keys spelled like them in snake case give them. -/
def covered (fields : List (Key × Json)) (extra : Entries) : List (Key × Json) :=
  fields.map fun field => (field.1, (extra.lookup field.1.snake).getD field.2)

theorem covered_keys (fields : List (Key × Json)) (extra : Entries) :
    (covered fields extra).map (·.1) = fields.map (·.1) := by
  rw [covered, List.map_map]
  rfl

theorem tells_plain_iff (own : fields.map (·.1) = keys) : Form.plain.Tells fields x.entries ↔ x.spare = x := by
  subst own
  rw [Extras.spare_eq_iff]
  constructor
  · intro tells entry mem
    refine ⟨by simpa [Form.shows, Form.plain] using tells.shown entry mem, ?_⟩
    simp only [List.map_map, List.mem_map, not_exists, not_and]
    exact fun field given same => tells.apart entry mem field given same.symm
  · intro foreign
    have apart (entry : String × Json) (mem : entry ∈ x.entries) (field : Key × Json) (given : field ∈ fields) :
        entry.1 ≠ field.1.snake := by
      intro same
      refine (foreign entry mem).2 ?_
      rw [List.map_map, same]
      exact List.mem_map_of_mem given
    refine ⟨apart, fun entry mem => ?_, fun entry mem field given _ => apart entry mem field given⟩
    simpa [Form.shows, Form.plain] using (foreign entry mem).1

theorem tells_spare (own : fields.map (·.1) = keys) : Form.plain.Tells fields x.spare.entries :=
  (tells_plain_iff own).2 x.spare_spare

/-- What the plain form keeps of extra keys is what it keeps of those that no field is spelled like, where all fields are
spelled alike in all forms. -/
theorem kept_spare (x : Extras keys) (words : ∀ key ∈ keys, key.snake = key.camel) :
    Form.plain.kept x.spare.entries = Form.plain.kept x.entries := by
  rw [Form.kept_eq, Form.kept_eq, Extras.spare, List.filter_filter]
  refine List.filter_congr fun entry mem => ?_
  have foreign : entry.1 ∉ keys.map (·.snake) := by
    rw [List.mem_map]
    rintro ⟨key, listed, same⟩
    exact x.apart entry mem key listed (same.symm.trans (words key listed))
  by_cases null : entry.2 = .null <;> simp [null, foreign, Form.shows, Form.plain]

variable (fields x) in
/-- The entries that the plain form writes of a record. -/
def plainly : Entries := Form.plain.extended (fields.map fun field => Form.plain.field field.1 field.2) x.entries

variable (fields x) in
theorem lookup_plainly (key : String) :
    (plainly fields x).lookup key = (x.entries.dropNulls.lookup key).or
      ((Form.plain.kept (fields.map fun field => Form.plain.field field.1 field.2)).lookup key) :=
  Entries.lookup_overlay key (x.once.sublist (List.Sublist.map _ List.filter_sublist))

theorem covered_shown {field : Key × Json} (given : field.2 ≠ .null ∨ (x.entries.dropNulls.lookup field.1.snake).isSome) :
    Form.plain.shows ((x.entries.dropNulls.lookup field.1.snake).getD field.2) = true := by
  cases noted : x.entries.dropNulls.lookup field.1.snake with
  | none => simpa [noted, Form.shows, Form.plain] using given
  | some j =>
    have solid : j ≠ .null := of_decide_eq_true (List.mem_filter.1 (Entries.mem_of_lookup noted)).2
    simpa [Form.shows, Form.plain] using solid

variable (distinct : Key.Distinct keys) (own : fields.map (·.1) = keys)
include distinct own

theorem nodup_plain : ((fields.map fun field => Form.plain.field field.1 field.2).map (·.1)).Nodup := by
  have spelled : (fields.map fun field => Form.plain.field field.1 field.2).map (·.1) =
      keys.map Form.plain.spelling := by
    rw [← own, List.map_map, List.map_map]
    rfl
  exact spelled ▸ distinct.nodup_spelling .plain

/-- The value of a field stands under its snake-case spelling in the plain form, and nothing under another one of its
spellings. -/
theorem lookup_field {field : Key × Json} (mem : field ∈ fields) {s : String} (spelled : s ∈ field.1.spellings) :
    (Form.plain.kept (fields.map fun field => Form.plain.field field.1 field.2)).lookup s =
      if s = field.1.snake ∧ field.2 ≠ .null then some field.2 else none := by
  have once := nodup_plain distinct own
  have found := Entries.lookup_dropNulls s once
  rw [show Form.plain.kept (fields.map fun field => Form.plain.field field.1 field.2) =
    Entries.dropNulls (fields.map fun field => Form.plain.field field.1 field.2) from rfl, found]
  by_cases snake : s = field.1.snake
  · subst snake
    have here : Form.plain.field field.1 field.2 ∈ fields.map fun field => Form.plain.field field.1 field.2 :=
      List.mem_map_of_mem mem
    have value := Entries.lookup_of_mem once here
    rw [show (Form.plain.field field.1 field.2).1 = field.1.snake from rfl] at value
    rw [value]
    by_cases null : field.2 = .null <;> simp [null, Form.field, Option.filter_some]
  · have absent : (fields.map fun field => Form.plain.field field.1 field.2).lookup s = none := by
      refine Entries.lookup_eq_none fun entry given same => snake ?_
      obtain ⟨other, listed, rfl⟩ := List.mem_map.1 given
      have given : Form.plain.spelling other.1 ∈ field.1.spellings := by
        rw [show Form.plain.spelling other.1 = s from same]
        exact spelled
      have one : other = field := Form.field_eq_of_mem distinct own mem listed given
      exact same.symm.trans (congrArg (fun field : Key × Json => field.1.snake) one)
    simp [absent, snake]

/-- **A field is found where the plain form writes it**, with the value that an extra key spelled like it gives it. -/
theorem found_plain :
    ∀ field ∈ covered fields x.entries.dropNulls, Found .plain (plainly fields x) field.1 field.2 := by
  rw [covered, List.forall_mem_map]
  intro field mem
  have listed : field.1 ∈ keys := own ▸ List.mem_map_of_mem mem
  have camel_free : x.entries.dropNulls.lookup field.1.camel = none :=
    Entries.lookup_eq_none fun entry extra => x.apart entry (List.mem_of_mem_filter extra) field.1 listed
  have camel := lookup_plainly fields x field.1.camel
  have snake := lookup_plainly fields x field.1.snake
  rw [camel_free, lookup_field distinct own mem List.mem_cons_self] at camel
  rw [lookup_field distinct own mem (List.mem_cons_of_mem _ List.mem_cons_self)] at snake
  unfold Found Key.find?
  rw [camel, snake, show Form.plain.spelling field.1 = field.1.snake from rfl]
  by_cases word : field.1.camel = field.1.snake
  · rw [word] at camel_free
    rw [word, camel_free]
    by_cases null : field.2 = .null <;> simp [null, Form.shows, Form.plain]
  · cases noted : x.entries.dropNulls.lookup field.1.snake with
    | none => by_cases null : field.2 = .null <;> simp [word, null, Form.shows, Form.plain]
    | some j =>
      have solid : j ≠ .null := of_decide_eq_true (List.mem_filter.1 (Entries.mem_of_lookup noted)).2
      simp [word, solid, Form.shows, Form.plain]

/-- The spellings that the fields take are those of the fields that have a value, their own or a noted one. -/
theorem used_plain_iff (s : String) :
    (keys.filterMap fun key => key.used? (plainly fields x)).contains s = true ↔
      ∃ field ∈ covered fields x.entries.dropNulls, Form.plain.shows field.2 = true ∧ field.1.snake = s := by
  rw [List.contains_iff_mem, List.mem_filterMap]
  have all : (covered fields x.entries.dropNulls).map (·.1) = keys := (covered_keys fields _).trans own
  constructor
  · rintro ⟨key, listed, used⟩
    rw [← all] at listed
    obtain ⟨field, mem, rfl⟩ := List.mem_map.1 listed
    rw [Key.used?, found_plain distinct own field mem] at used
    split at used
    · exact ⟨field, mem, ‹_›, Option.some.inj used⟩
    · cases used
  · rintro ⟨field, mem, shown, rfl⟩
    refine ⟨field.1, all ▸ List.mem_map_of_mem mem, ?_⟩
    rw [Key.used?, found_plain distinct own field mem, if_pos shown]
    rfl

/-- A field takes its snake-case spelling if it has a value, its own or a noted one. -/
theorem taken_of_given {field : Key × Json} (mem : field ∈ fields)
    (given : field.2 ≠ .null ∨ (x.entries.dropNulls.lookup field.1.snake).isSome) :
    (keys.filterMap fun key => key.used? (plainly fields x)).contains field.1.snake = true :=
  (used_plain_iff distinct own _).2 ⟨_, List.mem_map_of_mem mem, covered_shown given, rfl⟩

/-- What fields take are their snake-case spellings. -/
theorem spelled_of_taken {s : String}
    (taken : (keys.filterMap fun key => key.used? (plainly fields x)).contains s = true) : s ∈ keys.map (·.snake) := by
  obtain ⟨field, mem, -, rfl⟩ := (used_plain_iff distinct own s).1 taken
  rw [← own, ← covered_keys fields x.entries.dropNulls, List.map_map]
  exact List.mem_map_of_mem mem

/-- Every field that is written is taken, whatever value it is given. -/
theorem fields_taken : ((Form.plain.kept (fields.map fun field => Form.plain.field field.1 field.2)).map
    fun entry => (entry.1, (x.entries.dropNulls.lookup entry.1).getD entry.2)).filter
    (fun entry => !(keys.filterMap fun key => key.used? (plainly fields x)).contains entry.1) = [] := by
  rw [List.filter_eq_nil_iff]
  intro entry mem
  obtain ⟨written, kept, rfl⟩ := List.mem_map.1 mem
  obtain ⟨listed, solid⟩ := List.mem_filter.1 kept
  obtain ⟨field, given, rfl⟩ := List.mem_map.1 listed
  rw [Bool.not_eq_true', Bool.not_eq_false]
  exact taken_of_given distinct own given (.inl (of_decide_eq_true solid))

/-- An extra key that is not null is taken if it is spelled like a field, and then only. -/
theorem extra_taken_iff {entry : String × Json} (mem : entry ∈ x.entries) (solid : entry.2 ≠ .null) :
    (keys.filterMap fun key => key.used? (plainly fields x)).contains entry.1 = true ↔
      entry.1 ∈ keys.map (·.snake) := by
  refine ⟨spelled_of_taken distinct own, fun spelled => ?_⟩
  rw [← own, List.map_map] at spelled
  obtain ⟨field, given, same⟩ := List.mem_map.1 spelled
  have extra_once : (x.entries.dropNulls.map (·.1)).Nodup := x.once.sublist (List.Sublist.map _ List.filter_sublist)
  have noted : x.entries.dropNulls.lookup entry.1 = some entry.2 :=
    Entries.lookup_of_mem extra_once (List.mem_filter.2 ⟨mem, decide_eq_true solid⟩)
  rw [← show field.1.snake = entry.1 from same] at noted ⊢
  exact taken_of_given distinct own given (.inr (by rw [noted]; rfl))

/-- **What no field takes of what the plain form writes are the extra keys that are not null and not spelled like a
field.** -/
theorem rest_plain : Key.rest keys (plainly fields x) = x.spare.entries := by
  have once : ((Form.plain.kept (fields.map fun field => Form.plain.field field.1 field.2)).map (·.1)).Nodup :=
    (nodup_plain distinct own).sublist (List.Sublist.map _ List.filter_sublist)
  have extra_once : (x.entries.dropNulls.map (·.1)).Nodup := x.once.sublist (List.Sublist.map _ List.filter_sublist)
  have gone := fields_taken (x := x) distinct own
  have taken {entry : String × Json} (mem : entry ∈ x.entries) (solid : entry.2 ≠ .null) :=
    extra_taken_iff distinct own mem solid
  unfold Key.rest
  generalize (keys.filterMap fun key => key.used? (plainly fields x)) = used at gone taken
  rw [plainly, Form.extended, show Form.plain.kept x.entries = x.entries.dropNulls from rfl,
    Entries.overlay_eq once extra_once, List.filter_append, gone, List.nil_append, Extras.spare, Entries.dropNulls,
    List.filter_filter, List.filter_filter]
  refine List.filter_congr fun entry mem => ?_
  rw [Bool.eq_iff_iff, Bool.and_eq_true, Bool.and_eq_true, Bool.not_eq_true', ← Bool.not_eq_true, decide_eq_true_eq,
    decide_eq_true_eq, decide_eq_true_eq]
  constructor
  · rintro ⟨⟨free, -⟩, solid⟩
    exact ⟨solid, fun spelled => free ((taken mem solid).2 spelled)⟩
  · rintro ⟨solid, foreign⟩
    refine ⟨⟨fun hit => foreign ((taken mem solid).1 hit), fun written => foreign ?_⟩, solid⟩
    obtain ⟨other, kept, same⟩ := List.mem_map.1 written
    obtain ⟨field, given, rfl⟩ := List.mem_map.1 (List.mem_of_mem_filter kept)
    exact List.mem_map.2 ⟨field.1, own ▸ List.mem_map_of_mem given, same⟩

/-- **Extra keys are read back from the plain form** if they are not null and not spelled like a field. -/
theorem ofEntries_plain : Extras.ofEntries keys (plainly fields x) = x.spare := by
  have left := rest_plain (x := x) distinct own
  have kept : Entries.overlay [] x.spare.entries = x.spare.entries := Entries.overlay_of_fresh x.spare.once
  generalize x.spare = y at left kept
  cases y
  simp only at left kept
  simp only [Extras.ofEntries, left, kept]

end Form

/-! ## Effects -/

namespace Area

/-- What is read of an area that was written in the plain form. -/
def copy (a : Area) : Area := { a with extras := a.extras.spare }

theorem write_copy (a : Area) : a.copy.write .plain = a.write .plain := by
  simp only [write, copy, Form.extended, Form.kept_spare a.extras (by decide)]

theorem told_copy (a : Area) : a.copy.Told .plain := Form.tells_spare rfl

variable (region : Option Area)

theorem writes_copy : (region.map copy).map (write .plain) = region.map (write .plain) := by
  simp [Function.comp_def, write_copy]

theorem told_of_mem_copy : ∀ a ∈ region.map copy, a.Told .plain := by
  intro a mem
  obtain ⟨b, -, rfl⟩ := Option.map_eq_some_iff.1 mem
  exact b.told_copy

end Area

namespace Targeting

def copy (t : Targeting) : Targeting := { t with area := t.area.map Area.copy }

theorem write_copy (t : Targeting) : t.copy.write .plain = t.write .plain := by
  simp only [write, copy, Area.writes_copy]

theorem told_copy (t : Targeting) : t.copy.Told .plain := Area.told_of_mem_copy t.area

end Targeting

namespace Impact

/-- What is read of an impact that was written in the plain form. -/
def copy : Impact → Impact
  | .custom payload extras => .custom payload extras.spare
  | i => i

end Impact

namespace Effect

mutual

/-- **What is read of an effect that was written in the plain form**: the effect without the extra keys that are null. -/
def copy : Effect → Effect
  | .impact t i => .impact (t.map Targeting.copy) i.copy
  | .area t region effects => .area (t.map Targeting.copy) (region.map Area.copy) (copyAll effects)
  | .save t s onSuccess onFailure => .save (t.map Targeting.copy) s (copyAll onSuccess) (copyAll onFailure)

def copyAll : List Effect → List Effect
  | [] => []
  | effect :: effects => copy effect :: copyAll effects

end

theorem targetsField_copy (t : Option Targeting) :
    targetsField .plain (t.map Targeting.copy) = targetsField .plain t := by
  simp [targetsField, Function.comp_def, Targeting.write_copy]

theorem targets_told_copy (t : Option Targeting) : ∀ x ∈ t.map Targeting.copy, x.Told .plain := by
  intro x mem
  obtain ⟨y, -, rfl⟩ := Option.map_eq_some_iff.1 mem
  exact y.told_copy

theorem writeImpact_copy (t : Option Targeting) (i : Impact) :
    writeImpact .plain (t.map Targeting.copy) i.copy = writeImpact .plain t i := by
  cases i with
  | custom payload extras =>
    simp only [Impact.copy, writeImpact, targetsField_copy, Form.extended, Form.kept_spare extras (by decide)]
  | _ => simp only [Impact.copy, writeImpact, targetsField_copy]

mutual

theorem write_copy : ∀ effect : Effect, write .plain (copy effect) = write .plain effect
  | .impact t i => by rw [copy, write, write, writeImpact_copy]
  | .area t region effects => by
    rw [copy, write, write, targetsField_copy, Area.writes_copy, writeAll_copyAll effects]
  | .save t s onSuccess onFailure => by
    rw [copy, write, write, targetsField_copy, writeAll_copyAll onSuccess, writeAll_copyAll onFailure]

theorem writeAll_copyAll : ∀ effects : List Effect, writeAll .plain (copyAll effects) = writeAll .plain effects
  | [] => rfl
  | effect :: effects => by rw [copyAll, writeAll, writeAll, write_copy effect, writeAll_copyAll effects]

end

theorem impactTold_copy (t : Option Targeting) (i : Impact) : ImpactTold .plain (t.map Targeting.copy) i.copy := by
  refine ⟨targets_told_copy t, ?_⟩
  cases i with
  | custom payload extras => exact Form.tells_spare (x := extras) rfl
  | _ => exact Form.tells_nil _ _

mutual

theorem told_copy : ∀ effect : Effect, Told .plain (copy effect)
  | .impact t i => impactTold_copy t i
  | .area t region effects => ⟨targets_told_copy t, Area.told_of_mem_copy region, allTold_copyAll effects⟩
  | .save t _ onSuccess onFailure => ⟨targets_told_copy t, allTold_copyAll onSuccess, allTold_copyAll onFailure⟩

theorem allTold_copyAll : ∀ effects : List Effect, AllTold .plain (copyAll effects)
  | [] => trivial
  | effect :: effects => ⟨told_copy effect, allTold_copyAll effects⟩

end

/-- **Effects that are written in the plain form are read back without the extra keys that are null.** -/
theorem reads_copyAll (effects : List Effect) :
    Reads (Intake.list read (.arr (writeAll .plain effects))) (copyAll effects) := by
  rw [← writeAll_copyAll]
  exact reads_form_effects (allTold_copyAll effects)

theorem copyAll_eq_iff {effects : List Effect} : copyAll effects = effects ↔ AllTold .plain effects := by
  constructor
  · intro same
    rw [← same]
    exact allTold_copyAll effects
  · intro told
    exact Option.some.inj (Yields.eq_some_of_reads (reads_copyAll effects).yields (reads_form_effects told))

end Effect

/-! ## Triggers and actions -/

namespace Intake

/-- The text that a value is, or null. -/
def textOrNull? : Json → Option (Option String)
  | .null => some none
  | .str s => some (some s)
  | .torn points => some (some (Json.shown points))
  | _ => none

/-- The natural number that a value stands for, or null. -/
def natOrNull? : Json → Option (Option Nat)
  | .null => some none
  | j => ((intOf j).toOption.bind fun n => (atLeast 0 n).toOption).map some

theorem yields_text (j : Json) (s : Supply) : Yields (nullable text j) s (textOrNull? j) s := by
  cases j with
  | null => exact (Reads.pure none).yields s
  | str w => exact (Reads.text? (some w)).yields s
  | torn points => exact (Reads.text? (some (Json.shown points))).yields s
  | _ => exact ⟨_, rfl, rfl⟩

theorem yields_int (j : Json) (s : Supply) : Yields (int j) s (intOf j).toOption s := by
  unfold int
  cases intOf j <;> exact ⟨_, rfl, rfl⟩

theorem yields_nat (j : Json) (s : Supply) : Yields (nullable nat j) s (natOrNull? j) s := by
  cases j with
  | null => exact (Reads.pure none).yields s
  | _ => exact .map some (.check (atLeast 0) (yields_int _ s))

end Intake

namespace Trigger

open Intake (textOrNull? natOrNull?)

/-- What an extra key that is not null notes under the snake-case spelling of a field, if there is one, else the value of
the field. -/
def noted (t : Trigger) (key : Key) (value : Json) : Json := (t.extras.entries.dropNulls.lookup key.snake).getD value

/-- **What is read of a trigger that was written in the plain form**, if it is read: the trigger with what its extra keys
note as the values of its fields, and with the other extra keys that are not null. -/
def copy? (t : Trigger) : Option Trigger :=
  (textOrNull? (t.noted Field.damageType (Json.ofText? t.damageType))).bind fun damageType =>
    (natOrNull? (t.noted Field.minLevel (Json.ofNat? t.minLevel))).bind fun minLevel =>
      (natOrNull? (t.noted Field.minDistance (Json.ofNat? t.minDistance))).map fun minDistance =>
        { t with damageType, minLevel, minDistance, extras := t.extras.spare }

/-- **What a trigger notes under the snake-case spelling of a field could be the value of the field.** -/
structure Legible (t : Trigger) : Prop where
  damageType : ∀ j, t.extras.entries.lookup "damage_type" = some j → (textOrNull? j).isSome
  minLevel : ∀ j, t.extras.entries.lookup "min_level" = some j → (natOrNull? j).isSome
  minDistance : ∀ j, t.extras.entries.lookup "min_distance" = some j → (natOrNull? j).isSome

theorem noted_word (t : Trigger) {s : String} (listed : Key.word s ∈ keys) (value : Json) :
    t.noted (.word s) value = value := by
  have free : t.extras.entries.dropNulls.lookup s = none :=
    Entries.lookup_eq_none fun entry extra => t.extras.apart entry (List.mem_of_mem_filter extra) (.word s) listed
  rw [noted, show (Key.word s).snake = s from rfl, free]
  rfl

/-- What is noted is read as some value if it is legible. -/
theorem isSome_noted {α : Type} {read? : Json → Option (Option α)} {key : Key} {value : Json}
    (own : (read? value).isSome) (null : (read? .null).isSome) (t : Trigger) :
    (read? (t.noted key value)).isSome ↔ ∀ j, t.extras.entries.lookup key.snake = some j → (read? j).isSome := by
  rw [noted, Entries.lookup_dropNulls key.snake t.extras.once]
  cases t.extras.entries.lookup key.snake with
  | none => simpa using own
  | some j =>
    by_cases none : j = .null
    · simp [none, null, own, Option.filter_some]
    · simp [none, Option.filter_some]

theorem isSome_copy?_iff {t : Trigger} : t.copy?.isSome ↔ t.Legible := by
  have text (o : Option String) : (textOrNull? (Json.ofText? o)).isSome := by cases o <;> rfl
  have nat (o : Option Nat) : (natOrNull? (Json.ofNat? o)).isSome := by
    cases o <;> simp [natOrNull?, Json.ofNat?, Intake.intOf, Intake.atLeast, Except.toOption]
  have fields : t.copy?.isSome ↔
      (textOrNull? (t.noted Field.damageType (Json.ofText? t.damageType))).isSome ∧
        (natOrNull? (t.noted Field.minLevel (Json.ofNat? t.minLevel))).isSome ∧
        (natOrNull? (t.noted Field.minDistance (Json.ofNat? t.minDistance))).isSome := by
    unfold copy?
    cases textOrNull? (t.noted Field.damageType (Json.ofText? t.damageType)) <;>
      cases natOrNull? (t.noted Field.minLevel (Json.ofNat? t.minLevel)) <;>
      simp
  rw [fields, isSome_noted (text _) rfl, isSome_noted (nat _) rfl, isSome_noted (nat _) rfl]
  exact ⟨fun h => ⟨h.1, h.2.1, h.2.2⟩, fun h => ⟨h.damageType, h.minLevel, h.minDistance⟩⟩

theorem yields_copy (t : Trigger) (s : Supply) : Yields (Trigger.read (t.write .plain)) s t.copy? s := by
  have found := @Form.found_plain _ t.written t.extras (by decide) rfl
  have extras_read : Reads (Intake.extras (Form.plainly t.written t.extras) keys) t.extras.spare := by
    rw [Intake.extras, show Extras.ofEntries keys _ = _ from Form.ofEntries_plain (x := t.extras) (by decide) rfl]
    exact .pure _
  have shown : t.write .plain = .obj (Form.plainly t.written t.extras) := rfl
  rw [shown, Trigger.read, Intake.record]
  generalize Form.plainly t.written t.extras = entries at found extras_read
  -- A field of one word has no extra key that is spelled like it.
  have kind_value := t.noted_word (s := "type") (by decide) (.str t.kind)
  have range_value := t.noted_word (s := "range") (by decide) (Json.ofNat? t.range)
  simp only [Form.covered, written, List.map_cons, List.map_nil, List.forall_mem_cons] at found
  obtain ⟨kind_found, range_found, damageType_found, level_found, distance_found, -⟩ := found
  replace kind_found : Found .plain entries Field.kind (.str t.kind) := kind_value ▸ kind_found
  replace range_found : Found .plain entries Field.range (Json.ofNat? t.range) := range_value ▸ range_found
  refine Yields.of_eq ((kind_found.required (.occasion t.kind)).yields s |>.map Trigger.mk
    |>.seq ((range_found.optional (.nat? t.range)).yields s)
    |>.seq (damageType_found.yields_optional (Intake.yields_text _ s))
    |>.seq (level_found.yields_optional (Intake.yields_nat _ s))
    |>.seq (distance_found.yields_optional (Intake.yields_nat _ s))
    |>.seq (extras_read.yields s)) ?_
  unfold copy? noted
  generalize textOrNull? _ = damageType
  cases damageType with
  | none => rfl
  | some damageType =>
    generalize natOrNull? _ = level
    cases level with
    | none => rfl
    | some level =>
      generalize natOrNull? _ = distance
      cases distance <;> rfl

-- A null that is spelled like a field does not take the field's place.
example : (Trigger.mk "damaged" none (some "cold") none none ⟨[("damage_type", .null)], by simp, by decide⟩).copy? =
    some ⟨"damaged", none, some "cold", none, none, .empty⟩ := by
  decide

/-- A trigger is read as it was if the plain form tells its extra keys. -/
theorem copy?_eq_self_iff {t : Trigger} : t.copy? = some t ↔ t.Told .plain := by
  constructor
  · intro same
    rw [Told, Form.tells_plain_iff (x := t.extras) rfl]
    simp only [copy?, Option.bind_eq_some_iff, Option.map_eq_some_iff] at same
    obtain ⟨damageType, -, level, -, distance, -, same⟩ := same
    exact congrArg Trigger.extras same
  · intro told
    exact Yields.eq_some_of_reads t.yields_copy (reads_form told)

end Trigger

namespace Action

/-- **What is read of an action that was written in the plain form**, if it is read: all of it but for what its trigger
and its effects lose. -/
def copy? (a : Action) : Option Action :=
  (a.trigger.mapM Trigger.copy?).map fun trigger => { a with trigger, effects := Effect.copyAll a.effects }

theorem yields_copy (a : Action) (s : Supply) : Yields (Action.read (a.write .plain)) s a.copy? s := by
  rw [write_form, Action.read, Intake.record]
  have found := Reads.found_bare .plain keys (a.parts .plain) (by decide) rfl
  have none_left : Reads (Intake.noExtras (Form.plain.entries (a.parts .plain) []) keys) () :=
    .noExtras (by decide) rfl
  generalize Form.plain.entries (a.parts .plain) [] = entries at found none_left
  obtain ⟨id, name, description, economy, cost, trigger, recharge, phase, effects⟩ := a
  simp only [parts, List.forall_mem_cons] at found
  obtain ⟨id_found, name_found, description_found, kind_found, cost_found, trigger_found, recharge_found, phase_found,
    effects_found, -⟩ := found
  have trigger_read := Yields.nullable (Trigger.write_ne_null .plain) trigger fun t _ => t.yields_copy s
  have id_read : Reads (Intake.id entries) id := id_found.made (.label id)
  refine Yields.of_eq ((id_read.yields s).map Action.mk
    |>.seq ((name_found.required (.name name)).yields s)
    |>.seq ((description_found.field (.text description)).yields s)
    |>.seq ((kind_found.required (.tag economy)).yields s)
    |>.seq ((cost_found.field (.nat cost)).yields s)
    |>.seq (trigger_found.yields_optional trigger_read)
    |>.seq ((recharge_found.optional (.threshold? recharge)).yields s)
    |>.seq ((phase_found.optional (.phase? phase)).yields s)
    |>.seq ((effects_found.field (Effect.reads_copyAll effects)).yields s)
    |>.seqLeft none_left) ?_
  simp only [copy?]
  cases trigger.mapM Trigger.copy? <;> rfl

theorem isSome_copy?_iff {a : Action} : a.copy?.isSome ↔ ∀ t ∈ a.trigger, t.Legible := by
  unfold copy?
  cases a.trigger with
  | none => simp
  | some t => simpa using Trigger.isSome_copy?_iff

/-- **An action is read as it was if the plain form tells the extra keys in it.** -/
theorem copy?_eq_self_iff {a : Action} : a.copy? = some a ↔ a.Told .plain := by
  constructor
  · intro same
    obtain ⟨trigger, read, same⟩ := Option.map_eq_some_iff.1 same
    have kept : trigger = a.trigger := congrArg Action.trigger same
    have effects : Effect.copyAll a.effects = a.effects := congrArg Action.effects same
    refine ⟨fun t mem => Trigger.copy?_eq_self_iff.1 ?_, Effect.copyAll_eq_iff.1 effects⟩
    rw [Option.mem_def] at mem
    rw [kept, mem] at read
    simpa using read
  · intro told
    exact Yields.eq_some_of_reads a.yields_copy (reads_form told)

end Action

end Bestiary
