import Bestiary.Intake.Scalar
/-!
# Records

A record is an object with known fields. Each field has two spellings, of which documents use the camel-case
one; the snake-case one is read too. Where both are given the camel-case one counts and the other is an
extra key. Records forbid extra keys or keep them. Written, a record has its fields in order, then its extra
keys.
-/
namespace Bestiary

/-- The two spellings of a field. -/
structure Key where
  camel : String
  snake : String
  deriving DecidableEq, Repr

namespace Key

/-- A field of one word, which both spellings write alike. -/
def word (s : String) : Key := ⟨s, s⟩

/-- The entry of the field, by the spelling that counts. -/
def find? (key : Key) (entries : Entries) : Option (String × Json) :=
  match entries.lookup key.camel with
  | some j => some (key.camel, j)
  | none => (entries.lookup key.snake).map fun j => (key.snake, j)

/-- The spelling that counts, if the field is given. -/
def used? (key : Key) (entries : Entries) : Option String := (key.find? entries).map (·.1)

/-- The entries that no field takes. -/
def rest (keys : List Key) (entries : Entries) : Entries :=
  entries.filter fun entry => !(keys.filterMap fun key => key.used? entries).contains entry.1

end Key

/-- How records are written. -/
structure Form where
  /-- Whether fields have their camel-case spelling. -/
  camel : Bool
  /-- Whether fields and extra keys that are null are written. -/
  nulls : Bool
  deriving DecidableEq, Repr

namespace Form

/-- Every field, in camel case. -/
def full : Form := ⟨true, true⟩

/-- The fields that are not null, in camel case. -/
def wire : Form := ⟨true, false⟩

/-- The fields that are not null, in snake case. -/
def plain : Form := ⟨false, false⟩

/-- A field with its value. -/
def field (form : Form) (key : Key) (value : Json) : String × Json :=
  (if form.camel then key.camel else key.snake, value)

/-- The entries that are written: all, or those that are not null. -/
def kept (form : Form) (entries : Entries) : Entries := if form.nulls then entries else entries.dropNulls

/-- A record of these entries. -/
def record (form : Form) (entries : Entries) : Json := .obj (form.kept entries)

/-- The entries of a record with extra keys. An extra key that is written takes the place of a field with its
spelling, one that is left out does not. -/
def extended (form : Form) (fields extras : Entries) : Entries := (form.kept fields).overlay (form.kept extras)

end Form

/-- The extra keys of a record with these fields: keys that occur once and are not the camel-case spelling of
a field. -/
structure Extras (keys : List Key) where
  /-- The extra keys with their values. -/
  entries : Entries
  once : (entries.map (·.1)).Nodup
  /-- No key is taken by a field. -/
  apart : ∀ entry ∈ entries, ∀ key ∈ keys, entry.1 ≠ key.camel
  deriving DecidableEq, Repr

namespace Extras

variable {keys : List Key}

def empty : Extras keys := ⟨[], List.nodup_nil, by simp⟩

instance : Inhabited (Extras keys) := ⟨empty⟩

end Extras

namespace Intake

variable {α : Type}

/-- A field that has to be given. -/
def required (entries : Entries) (key : Key) (read : Json → Intake α) : Intake α :=
  match key.find? entries with
  | some (k, j) => inside (.key k) (read j)
  | none => inside (.key key.camel) (issue .missing)

/-- A field that is made when it is absent. -/
def made (entries : Entries) (key : Key) (make : Intake α) (read : Json → Intake α) : Intake α :=
  match key.find? entries with
  | some (k, j) => inside (.key k) (read j)
  | none => make

/-- A field with a value for when it is absent. -/
def field (entries : Entries) (key : Key) (absent : α) (read : Json → Intake α) : Intake α :=
  made entries key (pure absent) read

/-- A field that may be null or absent. -/
def optional (entries : Entries) (key : Key) (read : Json → Intake α) : Intake (Option α) :=
  field entries key none (nullable read)

/-- Refuses the extra keys. -/
def noExtras (entries : Entries) (keys : List Key) : Intake Unit := fun s =>
  match Key.rest keys entries with
  | [] => (.ok (), s)
  | rest => (.error (rest.map fun entry => ⟨.extraForbidden, [.key entry.1]⟩), s)

/-- The record that is read from the entries of an object. -/
def record (name : String) (read : Entries → Intake α) : Json → Intake α
  | .obj entries => read entries
  | _ => issue (.notRecord name)

end Intake

namespace Entries

theorem put_keys_nodup (entries : Entries) (key : String) (value : Json) (h : (entries.map (·.1)).Nodup) :
    ((entries.put key value).map (·.1)).Nodup := by
  induction entries with
  | nil => simp [put]
  | cons entry rest ih =>
    simp only [put]
    split
    · rename_i hk
      simpa [hk] using h
    · rename_i hk
      have keys : ∀ (es : Entries) (x : String), x ∈ (es.put key value).map (·.1) → x = key ∨ x ∈ es.map (·.1) := by
        intro es x
        induction es with
        | nil => simp [put]
        | cons e es ih =>
          simp only [put]
          split
          · rename_i he
            simp only [List.map_cons, List.mem_cons]
            exact fun hx => hx.elim .inl fun hx => .inr (.inr hx)
          · simp only [List.map_cons, List.mem_cons]
            intro hx
            rcases hx with hx | hx
            · exact .inr (.inl hx)
            · exact (ih hx).elim .inl fun hx => .inr (.inr hx)
      simp only [List.map_cons, List.nodup_cons] at h ⊢
      refine ⟨fun hm => ?_, ih h.2⟩
      rcases keys rest entry.1 hm with he | he
      · exact hk he
      · exact h.1 he

theorem mem_put {entries : Entries} {key : String} {value : Json} {entry : String × Json}
    (h : entry ∈ entries.put key value) : entry = (key, value) ∨ entry ∈ entries := by
  induction entries with
  | nil => simpa [put] using h
  | cons e rest ih =>
    simp only [put] at h
    split at h
    · rcases List.mem_cons.1 h with h | h
      · exact .inl h
      · exact .inr (List.mem_cons_of_mem _ h)
    · rcases List.mem_cons.1 h with h | h
      · exact .inr (h ▸ List.mem_cons_self)
      · exact (ih h).elim .inl fun h => .inr (List.mem_cons_of_mem _ h)

theorem overlay_keys_nodup (base upper : Entries) (h : (base.map (·.1)).Nodup) :
    ((base.overlay upper).map (·.1)).Nodup := by
  induction upper generalizing base with
  | nil => exact h
  | cons entry upper ih => exact ih _ (put_keys_nodup base _ _ h)

theorem mem_overlay {base upper : Entries} {entry : String × Json} (h : entry ∈ base.overlay upper) :
    entry ∈ base ∨ entry ∈ upper := by
  induction upper generalizing base with
  | nil => exact .inl h
  | cons e upper ih =>
    rcases ih h with h | h
    · rcases mem_put h with h | h
      · exact .inr (h ▸ List.mem_cons_self)
      · exact .inl h
    · exact .inr (List.mem_cons_of_mem _ h)

end Entries

namespace Extras

/-- The extra keys among the entries of an object. -/
def ofEntries (keys : List Key) (entries : Entries) : Extras keys where
  entries := Entries.overlay [] (Key.rest keys entries)
  once := Entries.overlay_keys_nodup [] _ List.nodup_nil
  apart := by
    intro entry h key hk he
    rcases Entries.mem_overlay h with h | h
    · cases h
    · simp only [Key.rest, List.mem_filter, Bool.not_eq_true', List.contains_eq_mem, List.mem_filterMap,
        decide_eq_false_iff_not, not_exists, not_and] at h
      refine h.2 key hk ?_
      have found : (entries.lookup key.camel).isSome := by
        rw [List.lookup_isSome_iff]
        exact ⟨entry, h.1, by simp [he]⟩
      obtain ⟨j, hj⟩ := Option.isSome_iff_exists.1 found
      simp [Key.used?, Key.find?, hj, he]

end Extras

namespace Intake

/-- An object with free keys. -/
def dictionary : Json → Intake (Extras [])
  | .obj entries => Intake.pure (Extras.ofEntries [] entries)
  | _ => issue .dictType

/-- The extra keys, which are kept. -/
def extras (entries : Entries) (keys : List Key) : Intake (Extras keys) := Intake.pure (Extras.ofEntries keys entries)

end Intake

end Bestiary
