import Mathlib.Data.List.Pairwise
import Bestiary.Proofs.Document.Record
/-!
# Form — what is written in any form is read back

A form spells the fields in one of two ways and may leave out what is null.  Where no two fields share a spelling, a
field that is written is found under its own, and one that is left out is not found, as long as no extra key takes its
place (`find?_entries`); what no field takes are the extra keys (`rest_entries`).  A field that was left out is read as
the value it stands for when it is absent.
-/
namespace Bestiary

namespace Form

/-- How the form spells a field. -/
def spelling (form : Form) (key : Key) : String := if form.camel then key.camel else key.snake

/-- Whether the form writes what has this value. -/
def shows (form : Form) (j : Json) : Bool := form.nulls || j ≠ .null

/-- The entries of a record: its fields and then its extra keys, without those that the form leaves out. -/
def entries (form : Form) (fields : List (Key × Json)) (extra : Entries) : Entries :=
  (fields.map (fun field => form.field field.1 field.2) ++ extra).filter fun entry => form.shows entry.2

theorem kept_eq (form : Form) (entries : Entries) :
    form.kept entries = entries.filter fun entry => form.shows entry.2 := by
  unfold kept shows
  split
  · rename_i nulls
    simp [nulls]
  · rename_i drops
    simp [drops, Entries.dropNulls]

theorem record_eq (form : Form) (entries : Entries) :
    form.record entries = .obj (entries.filter fun entry => form.shows entry.2) :=
  congrArg Json.obj (kept_eq form entries)

/-- What is written of a record without extra keys. -/
theorem record_fields (form : Form) (fields : List (Key × Json)) :
    form.record (fields.map fun field => form.field field.1 field.2) = .obj (form.entries fields []) := by
  rw [record_eq, Form.entries, List.append_nil]

theorem record_ne_null (form : Form) (entries : Entries) : form.record entries ≠ .null := nofun

@[simp] theorem spelling_word (form : Form) (s : String) : form.spelling (.word s) = s := by
  simp [spelling, Key.word]

end Form

namespace Entries

theorem mem_of_lookup {k : String} {v : Json} : ∀ {entries : Entries}, entries.lookup k = some v → (k, v) ∈ entries
  | [], found => by cases found
  | entry :: rest, found => by
    rw [List.lookup_cons] at found
    split at found
    · rename_i same
      cases found
      have key := eq_of_beq same
      subst key
      exact List.mem_cons_self
    · exact List.mem_cons_of_mem _ (mem_of_lookup found)

theorem lookup_eq_none {k : String} {entries : Entries} (absent : ∀ entry ∈ entries, entry.1 ≠ k) :
    entries.lookup k = none := by
  rw [List.lookup_eq_none_iff]
  exact fun entry mem => bne_iff_ne.2 (absent entry mem).symm

/-- Among entries with keys of their own, each is the one that is looked up. -/
theorem lookup_of_mem {entry : String × Json} : ∀ {entries : Entries}, (entries.map (·.1)).Nodup → entry ∈ entries →
    entries.lookup entry.1 = some entry.2
  | first :: rest, once, mem => by
    rw [List.map_cons, List.nodup_cons] at once
    rw [List.lookup_cons]
    rcases List.mem_cons.1 mem with rfl | later
    · rw [beq_self_eq_true]
    · have other : (entry.1 == first.1) = false := by
        rw [beq_eq_false_iff_ne]
        intro same
        exact once.1 (same ▸ List.mem_map_of_mem later)
      rw [other]
      exact lookup_of_mem once.2 later

end Entries

namespace Key

theorem lookup_of_find? {key : Key} {entries : Entries} {k : String} {j : Json}
    (given : key.find? entries = some (k, j)) : entries.lookup k = some j := by
  unfold find? at given
  split at given
  · rename_i found
    cases given
    exact found
  · obtain ⟨value, found, same⟩ := Option.map_eq_some_iff.1 given
    cases same
    exact found

/-- In which order the fields are listed does not matter. -/
theorem rest_perm {keys others : List Key} (same : keys.Perm others) (entries : Entries) :
    rest keys entries = rest others entries := by
  refine List.filter_congr fun entry _ => congrArg _ ?_
  rw [Bool.eq_iff_iff, List.contains_iff_mem, List.contains_iff_mem]
  exact (same.filterMap _).mem_iff

/-- Both spellings of a field. -/
def spellings (key : Key) : List String := [key.camel, key.snake]

theorem spelling_mem (form : Form) (key : Key) : form.spelling key ∈ key.spellings := by
  unfold Form.spelling spellings
  split <;> simp

/-- No two of the fields share a spelling. -/
def Distinct (keys : List Key) : Prop := keys.Pairwise fun k l => ∀ s ∈ k.spellings, s ∉ l.spellings

instance (keys : List Key) : Decidable (Distinct keys) := by
  unfold Distinct
  infer_instance

/-- Fields that share a spelling are one. -/
theorem Distinct.eq_of_mem {keys : List Key} (distinct : Distinct keys) {k l : Key} (hk : k ∈ keys) (hl : l ∈ keys)
    {s : String} (ofK : s ∈ k.spellings) (ofL : s ∈ l.spellings) : k = l := by
  by_contra other
  have : Std.Symm fun k l : Key => ∀ s ∈ k.spellings, s ∉ l.spellings := ⟨fun _ _ h s hs hk => h s hk hs⟩
  exact List.Pairwise.forall distinct hk hl other s ofK ofL

theorem Distinct.nodup {keys : List Key} (distinct : Distinct keys) : keys.Nodup :=
  List.Pairwise.imp (fun apart same => apart _ List.mem_cons_self (by rw [same]; exact List.mem_cons_self)) distinct

theorem Distinct.nodup_spelling {keys : List Key} (distinct : Distinct keys) (form : Form) :
    (keys.map form.spelling).Nodup := by
  rw [List.Nodup, List.pairwise_map]
  refine distinct.imp fun {k l} apart same => ?_
  exact apart _ (spelling_mem form k) (same ▸ spelling_mem form l)

end Key

/-- **A form tells the extra keys from the fields**: they are spelled unlike its fields, and, if it leaves out nulls,
are not null and unlike the other spelling of a field that is. -/
structure Form.Tells (form : Form) (fields : List (Key × Json)) (extra : Entries) : Prop where
  apart : ∀ entry ∈ extra, ∀ field ∈ fields, entry.1 ≠ form.spelling field.1
  shown : ∀ entry ∈ extra, form.shows entry.2 = true
  vacant : ∀ entry ∈ extra, ∀ field ∈ fields, form.shows field.2 = false → entry.1 ≠ field.1.snake

instance (form : Form) (fields : List (Key × Json)) (extra : Entries) : Decidable (form.Tells fields extra) :=
  decidable_of_iff ((∀ entry ∈ extra, ∀ field ∈ fields, entry.1 ≠ form.spelling field.1) ∧
    (∀ entry ∈ extra, form.shows entry.2 = true) ∧
    ∀ entry ∈ extra, ∀ field ∈ fields, form.shows field.2 = false → entry.1 ≠ field.1.snake)
    ⟨fun h => ⟨h.1, h.2.1, h.2.2⟩, fun h => ⟨h.apart, h.shown, h.vacant⟩⟩

theorem Form.tells_nil (form : Form) (fields : List (Key × Json)) : form.Tells fields [] := ⟨nofun, nofun, nofun⟩

/-- Extra keys that no field is spelled like are told from the fields if they are written. -/
theorem Form.tells_of_foreign {form : Form} {fields : List (Key × Json)} {extra : Entries}
    (foreign : ∀ k ∈ extra.map (·.1), ∀ key ∈ fields.map (·.1), k ∉ key.spellings)
    (shown : ∀ entry ∈ extra, form.shows entry.2 = true) : form.Tells fields extra := by
  have apart (entry : String × Json) (mem : entry ∈ extra) (field : Key × Json) (given : field ∈ fields) :
      entry.1 ∉ field.1.spellings := foreign _ (List.mem_map_of_mem mem) _ (List.mem_map_of_mem given)
  refine ⟨fun entry mem field given named => ?_, shown, fun entry mem field given _ named => ?_⟩
  · exact apart entry mem field given (named ▸ Key.spelling_mem form field.1)
  · exact apart entry mem field given (named ▸ List.mem_cons_of_mem _ List.mem_cons_self)

/-- In full every form tells extra keys from fields. -/
theorem Form.tells_full {keys : List Key} {fields : List (Key × Json)} (extras : Extras keys)
    (own : fields.map (·.1) = keys) : Form.full.Tells fields extras.entries := by
  subst own
  exact ⟨fun entry mem field given => extras.apart entry mem field.1 (List.mem_map_of_mem given), fun _ _ => rfl,
    fun _ _ _ _ hidden => by cases hidden⟩

theorem Form.mem_entries {form : Form} {fields : List (Key × Json)} {extra : Entries} {entry : String × Json} :
    entry ∈ form.entries fields extra ↔
      ((∃ field ∈ fields, form.field field.1 field.2 = entry) ∨ entry ∈ extra) ∧ form.shows entry.2 = true := by
  simp only [Form.entries, List.mem_filter, List.mem_append, List.mem_map]

section Written

variable {form : Form} {keys : List Key} {fields : List (Key × Json)} {extras : Extras keys}
  (distinct : Key.Distinct keys) (own : fields.map (·.1) = keys) (tells : form.Tells fields extras.entries)
include distinct own

theorem Form.nodup_fields (tells : form.Tells fields extras.entries) :
    ((fields.map (fun field => form.field field.1 field.2) ++ extras.entries).map (·.1)).Nodup := by
  have shown : (fields.map fun field => form.field field.1 field.2).map (·.1) = keys.map form.spelling := by
    rw [← own, List.map_map, List.map_map]
    rfl
  rw [List.map_append, List.nodup_append, shown]
  refine ⟨distinct.nodup_spelling form, extras.once, ?_⟩
  rintro _ given _ extra rfl
  rw [← own, List.map_map] at given
  obtain ⟨field, mem, same⟩ := List.mem_map.1 given
  obtain ⟨entry, extra, named⟩ := List.mem_map.1 extra
  exact tells.apart entry extra field mem (named.trans same.symm)

theorem Form.nodup_entries (tells : form.Tells fields extras.entries) :
    ((form.entries fields extras.entries).map (·.1)).Nodup :=
  (Form.nodup_fields distinct own tells).sublist (List.Sublist.map _ List.filter_sublist)

/-- A field with one of the spellings of another is that field. -/
theorem Form.field_eq_of_mem {field other : Key × Json} (mem : field ∈ fields) (given : other ∈ fields)
    (named : form.spelling other.1 ∈ field.1.spellings) : other = field := by
  refine List.inj_on_of_nodup_map (f := (·.1)) (own ▸ distinct.nodup) given mem ?_
  exact distinct.eq_of_mem (own ▸ List.mem_map_of_mem given) (own ▸ List.mem_map_of_mem mem)
    (Key.spelling_mem form other.1) named

/-- Only the field itself stands under its camel-case spelling. -/
theorem Form.eq_of_camel {field : Key × Json} (mem : field ∈ fields) {entry : String × Json}
    (given : entry ∈ form.entries fields extras.entries) (named : entry.1 = field.1.camel) :
    entry = form.field field.1 field.2 := by
  obtain ⟨⟨other, listed, rfl⟩ | extra, -⟩ := Form.mem_entries.1 given
  · have spelled : form.spelling other.1 ∈ field.1.spellings := List.mem_cons.2 (.inl named)
    rw [Form.field_eq_of_mem distinct own mem listed spelled]
  · exact absurd named (extras.apart entry extra field.1 (own ▸ List.mem_map_of_mem mem))

include tells

/-- Nothing stands under the snake-case spelling of a field that is left out. -/
theorem Form.lookup_of_hidden {field : Key × Json} (mem : field ∈ fields) (hidden : form.shows field.2 = false) :
    (form.entries fields extras.entries).lookup field.1.snake = none := by
  rw [List.lookup_eq_none_iff]
  intro entry given
  rw [bne_iff_ne]
  intro named
  obtain ⟨⟨other, listed, rfl⟩ | extra, visible⟩ := Form.mem_entries.1 given
  · have spelled : form.spelling other.1 ∈ field.1.spellings :=
      List.mem_cons_of_mem _ (List.mem_singleton.2 named.symm)
    rw [Form.field_eq_of_mem distinct own mem listed spelled] at visible
    exact Bool.false_ne_true (hidden.symm.trans visible)
  · exact tells.vacant entry extra field mem hidden named.symm

/-- **A field is found under its own spelling**, unless the form leaves it out. -/
theorem Form.find?_entries {field : Key × Json} (mem : field ∈ fields) :
    field.1.find? (form.entries fields extras.entries) =
      if form.shows field.2 then some (form.spelling field.1, field.2) else none := by
  unfold Key.find?
  cases camel : (form.entries fields extras.entries).lookup field.1.camel with
  | some j =>
    have given := Entries.mem_of_lookup camel
    have same := Form.eq_of_camel distinct own mem given rfl
    have shown := (Form.mem_entries.1 given).2
    simp only [Form.field, Prod.mk.injEq] at same
    obtain ⟨spelled, rfl⟩ := same
    rw [if_pos shown, show form.spelling field.1 = field.1.camel from spelled.symm]
  | none =>
    rw [List.lookup_eq_none_iff] at camel
    by_cases shown : form.shows field.2 = true
    · have given : form.field field.1 field.2 ∈ form.entries fields extras.entries :=
        Form.mem_entries.2 ⟨.inl ⟨field, mem, rfl⟩, shown⟩
      have snake : form.spelling field.1 = field.1.snake := by
        unfold Form.spelling
        split
        · rename_i camel_case
          have clash := camel _ given
          simp [Form.field, camel_case] at clash
        · rfl
      have found := Entries.lookup_of_mem (Form.nodup_entries distinct own tells) given
      rw [show form.spelling field.1 = (form.field field.1 field.2).1 from rfl] at snake
      rw [if_pos shown, ← snake, found]
      rfl
    · rw [Bool.not_eq_true] at shown
      rw [Form.lookup_of_hidden distinct own tells mem shown, shown]
      rfl

/-- The spellings that the fields take are those of the fields that are shown. -/
theorem Form.used_iff (s : String) :
    (keys.filterMap fun key => key.used? (form.entries fields extras.entries)).contains s = true ↔
      ∃ field ∈ fields, form.shows field.2 = true ∧ form.spelling field.1 = s := by
  rw [List.contains_iff_mem, List.mem_filterMap]
  constructor
  · rintro ⟨key, listed, used⟩
    rw [← own] at listed
    obtain ⟨field, mem, rfl⟩ := List.mem_map.1 listed
    rw [Key.used?, Form.find?_entries distinct own tells mem] at used
    split at used
    · exact ⟨field, mem, ‹_›, Option.some.inj used⟩
    · cases used
  · rintro ⟨field, mem, shown, rfl⟩
    refine ⟨field.1, own ▸ List.mem_map_of_mem mem, ?_⟩
    rw [Key.used?, Form.find?_entries distinct own tells mem, if_pos shown]
    rfl

/-- **What no field takes are the extra keys.** -/
theorem Form.rest_entries : Key.rest keys (form.entries fields extras.entries) = extras.entries := by
  have used := Form.used_iff distinct own tells
  unfold Key.rest
  generalize (keys.filterMap fun key => key.used? (form.entries fields extras.entries)) = taken at used
  rw [Form.entries, List.filter_filter, List.filter_append]
  have none : (fields.map fun field => form.field field.1 field.2).filter
      (fun entry => !taken.contains entry.1 && form.shows entry.2) = [] := by
    rw [List.filter_eq_nil_iff]
    intro entry mem
    obtain ⟨field, listed, rfl⟩ := List.mem_map.1 mem
    rw [Bool.and_eq_true, Bool.not_eq_true', not_and]
    intro free shown
    have spelled := (used (form.field field.1 field.2).1).2 ⟨field, listed, shown, rfl⟩
    exact Bool.false_ne_true (free.symm.trans spelled)
  have all : extras.entries.filter (fun entry => !taken.contains entry.1 && form.shows entry.2) = extras.entries := by
    rw [List.filter_eq_self]
    intro entry mem
    rw [Bool.and_eq_true, Bool.not_eq_true']
    refine ⟨?_, tells.shown entry mem⟩
    rw [← Bool.not_eq_true, used]
    rintro ⟨field, listed, -, same⟩
    exact tells.apart entry mem field listed same.symm
  rw [none, all, List.nil_append]

/-- **Extra keys are read back in every form that tells them from the fields.** -/
theorem Form.ofEntries_entries : Extras.ofEntries keys (form.entries fields extras.entries) = extras := by
  have left := Form.rest_entries distinct own tells
  have kept : Entries.overlay [] extras.entries = extras.entries := Entries.overlay_of_fresh extras.once
  cases extras with
  | mk extra once apart =>
    simp only at left kept
    simp only [Extras.ofEntries, left, kept]

variable (extras) in
/-- **A record that is written has its fields and then its extra keys.** -/
theorem Form.extended_eq :
    form.extended (fields.map fun field => form.field field.1 field.2) extras.entries =
      form.entries fields extras.entries := by
  have fresh := Form.nodup_entries distinct own tells
  rw [Form.entries, List.filter_append, ← Form.kept_eq, ← Form.kept_eq] at fresh ⊢
  exact Entries.overlay_of_fresh fresh

end Written

namespace Intake
namespace Reads

variable {α : Type} {a : α} {read : Json → Intake α} {form : Form} {entries : Entries} {key : Key} {j : Json}

/-- How a field with this value is found where the form writes it. -/
def Found (form : Form) (entries : Entries) (key : Key) (j : Json) : Prop :=
  key.find? entries = if form.shows j then some (form.spelling key, j) else none

theorem Found.some (found : Found form entries key j) (solid : j ≠ .null) :
    key.find? entries = .some (form.spelling key, j) := by
  have shown : form.shows j = true := by simp [Form.shows, solid]
  rw [found, if_pos shown]

/-- A field that is never null is read from its value. -/
theorem Found.required (found : Found form entries key j) (h : Reads (read j) a) (solid : j ≠ .null := by simp) :
    Reads (Intake.required entries key read) a :=
  .required (found.some solid) h

theorem Found.made {make : Intake α} (found : Found form entries key j) (h : Reads (read j) a)
    (solid : j ≠ .null := by simp) : Reads (Intake.made entries key make read) a :=
  .made (found.some solid) h

theorem Found.field {absent : α} (found : Found form entries key j) (h : Reads (read j) a)
    (solid : j ≠ .null := by simp) : Reads (Intake.field entries key absent read) a :=
  found.made h solid

/-- A field that the form leaves out is read as the value for when it is absent. -/
theorem Found.default {absent : α} (found : Found form entries key j) (h : Reads (read j) a)
    (left : j = .null → Reads (Pure.pure absent : Intake α) a) : Reads (Intake.field entries key absent read) a := by
  unfold Found at found
  split at found
  · exact .made found h
  · rename_i hidden
    have null : j = .null := by
      by_contra solid
      exact hidden (by simp [Form.shows, solid])
    rw [Intake.field, Intake.made, found]
    exact left null

theorem Found.optional {o : Option α} (found : Found form entries key j) (h : Reads (Intake.nullable read j) o) :
    Reads (Intake.optional entries key read) o :=
  found.default h (by rintro rfl; exact h)

section Written

variable {keys : List Key} {fields : List (Key × Json)} {x : Extras keys} (distinct : Key.Distinct keys)
  (own : fields.map (·.1) = keys)
include distinct own

variable (x) in
/-- **Each field of a record is found in what is written of it.** -/
theorem found (tells : form.Tells fields x.entries) :
    ∀ field ∈ fields, Found form (form.entries fields x.entries) field.1 field.2 :=
  fun _ mem => Form.find?_entries distinct own tells mem

theorem extras (tells : form.Tells fields x.entries) :
    Reads (Intake.extras (form.entries fields x.entries) keys) x := by
  rw [Intake.extras, Form.ofEntries_entries distinct own tells]
  exact .pure x

theorem noExtras : Reads (Intake.noExtras (form.entries fields []) keys) () := by
  intro s
  have bare : form.Tells fields (Extras.empty : Extras keys).entries := form.tells_nil fields
  have none : Key.rest keys (form.entries fields []) = [] := Form.rest_entries distinct own bare
  simp only [run, Intake.noExtras, none]

variable (form keys fields) in
/-- Each field of a record without extra keys is found in what is written of it. -/
theorem found_bare : ∀ field ∈ fields, Found form (form.entries fields []) field.1 field.2 :=
  found .empty distinct own (form.tells_nil fields)

end Written

end Reads
end Intake

end Bestiary
