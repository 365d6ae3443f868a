import Bestiary.Catalogue.Import
import Bestiary.Json.Printer
import Bestiary.Proofs.Catalogue.Upsert
import Bestiary.Proofs.Document.Template
import Bestiary.Proofs.Json.Shape
/-!
# Exchange — a catalogue takes in what another one exports

The text of an export is split into the categories and templates that were written (`split_render`), and each of them
is read back and put over what has its id (`importText_render`).  So a catalogue that imports an export holds the
exported templates as they are in the other one, its categories, and whatever else it held before
(`importText_exported`), as long as the documents tell extra keys from fields, a text carries them, and they nest no
deeper than can be dumped and read.
-/
namespace Bestiary.Catalogue

open Intake (Reads)
open Json (Carried)

theorem candidate?_write (x : Category) : candidate? (x.write .wire) = some (x.write .wire) := by
  have filled : ((Json.str x.id.text).isTruthy && (Json.str x.name.text).isTruthy) = true := by
    simp [Json.isTruthy, x.id.filled, x.name.filled]
  exact if_pos filled

/-- Written categories are put over those with their ids. -/
theorem importCategories_write (xs : List Category) (c : Catalogue) (s : Supply) :
    importCategories (xs.map (Category.write .wire)) c s =
      (.ok (), { c with categories := c.categories.putAll xs }, s) := by
  induction xs generalizing c with
  | nil => rfl
  | cons x xs ih =>
    simp only [List.map_cons, importCategories, candidate?_write, Category.reads_form .wire x s, ih]
    rfl

/-- Written templates are put over those with their ids, and all of them are counted. -/
theorem importTemplates_write {ts : List Template} (told : ∀ t ∈ ts, t.Told .wire) (c : Catalogue) (s : Supply) :
    importTemplates (ts.map (Template.write .wire)) c s =
      ((ts.length, []), { c with templates := c.templates.putAll ts }, s) := by
  induction ts generalizing c with
  | nil => rfl
  | cons t ts ih =>
    rw [List.forall_mem_cons] at told
    simp only [List.map_cons, importTemplates, Template.reads_form told.1 s, ih told.2]
    rfl

/-- A text carries an export if it carries the templates. -/
theorem carried_write {x : Export} (carried : ∀ t ∈ x.templates, (t.write .wire).Carried) :
    (x.write .wire).Carried := by
  have categories : ∀ j ∈ x.categories.map (Category.write .wire), j.Carried := by
    refine List.forall_mem_map.2 fun c _ => ?_
    have written : c.write .wire = .obj [("id", .str c.id.text), ("name", .str c.name.text)] := rfl
    rw [written]
    simp [Carried, Json.CarriedEntries]
  have templates : ∀ j ∈ x.templates.map (Template.write .wire), j.Carried := List.forall_mem_map.2 carried
  have written : x.write .wire =
      .obj [("categories", .arr (x.categories.map (Category.write .wire))),
        ("templates", .arr (x.templates.map (Template.write .wire))), ("version", .str x.version),
        ("exportDate", .str x.date.text)] := rfl
  rw [written]
  simp only [Carried, Json.CarriedEntries, Json.carriedItems_iff, List.map_cons, List.map_nil]
  exact ⟨by decide, categories, templates, trivial, trivial, trivial⟩

/-- The text of an export is split into what was written of its categories and templates. -/
theorem split_render {x : Export} {reach : Nat} (carried : ∀ t ∈ x.templates, (t.write .wire).Carried)
    (within : (x.write .wire).depth ≤ reach) :
    split reach (Json.render .exported (x.write .wire)) =
      .ok (x.categories.map (Category.write .wire), x.templates.map (Template.write .wire)) := by
  rw [split, Json.parse_render .exported (carried_write carried) within]
  rfl

/-- **An export is imported by putting all of its categories and templates.** -/
theorem importText_render {x : Export} {reach : Nat} (told : ∀ t ∈ x.templates, t.Told .wire)
    (carried : ∀ t ∈ x.templates, (t.write .wire).Carried) (within : (x.write .wire).depth ≤ reach) (c : Catalogue)
    (s : Supply) : importText reach (Json.render .exported (x.write .wire)) c s =
      (.done x.templates.length [], ⟨c.categories.putAll x.categories, c.templates.putAll x.templates⟩, s) := by
  simp only [importText, split_render carried within, importCategories_write, importTemplates_write told]

/-- An export is written down if it can be dumped and a text carries it. -/
theorem exportText_of_carried {c : Catalogue} {ids : Option (List String)} {version : String} {date : Moment}
    {dumper : Dumper} (carried : ∀ t ∈ (c.exported ids version date).templates, (t.write .wire).Carried)
    (within : ((c.exported ids version date).write .wire).depth ≤ dumper.reach) :
    c.exportText dumper ids version date =
      .ok (Json.render .exported ((c.exported ids version date).write .wire)) := by
  rw [exportText, Dumper.dump_of_carried (carried_write carried) within]
  rfl

theorem template?_of_exported {c : Catalogue} {ids : Option (List String)} {version : String} {date : Moment}
    {t : Template} (mem : t ∈ (c.exported ids version date).templates) : c.template? t.id.text = some t := by
  cases ids with
  | none => exact Register.get?_of_mem mem
  | some ids =>
    obtain ⟨id, -, found⟩ := List.mem_filterMap.1 mem
    rw [template?, (Register.mem_of_get? found).2]
    exact found

/-- A fencer whose reaction notes something about its trigger. -/
def fencer (note : Json) : Template where
  id := ⟨"fencer", by decide⟩
  name := ⟨"Fencer", by decide⟩
  category := "guard"
  description := "Quick on its feet."
  maxLegendary := none
  maxMythic := none
  paragonPhases := none
  villainPerRound := none
  recharges := none
  actions :=
    [{ id := ⟨"parry", by decide⟩
       name := ⟨"Parry", by decide⟩
       description := "Turns the blade aside."
       economy := .reaction
       cost := 1
       trigger := some ⟨Occasion.attacked.name, some 5, none, none, none,
         ⟨[("note", note)], List.nodup_singleton _, by simp [Field.kind, Field.range, Field.damageType, Field.minLevel,
           Field.minDistance, Key.word]⟩⟩
       recharge := none
       phase := none
       effects := [.impact none (.custom ⟨[("gust", .int 20)], by simp, by simp⟩ .empty)] }]

/-- The fencer's note is told from the fields of the trigger if it is written. -/
theorem told_fencer {form : Form} {note : Json} (shown : form.shows note = true) : (fencer note).Told form := by
  refine List.forall_mem_singleton.2 ⟨?_, ⟨⟨nofun, form.tells_nil _⟩, trivial⟩⟩
  rintro _ ⟨⟩
  exact Form.tells_of_foreign (show ∀ k ∈ ["note"], ∀ key ∈ Trigger.keys, k ∉ key.spellings by decide)
    (List.forall_mem_singleton.2 shown)

def fencers (note : Json) : Catalogue :=
  ⟨⟨[⟨⟨"guard", by decide⟩, ⟨"Guards", by decide⟩⟩], by decide⟩, ⟨[fencer note], List.nodup_singleton _⟩⟩

def newYear : Moment := ⟨⟨2024, 1, 1, 0, 0, 0, 0, some 0⟩, by decide⟩

end Bestiary.Catalogue
