import Bestiary.Proofs.Document.Creature
import Bestiary.Template
/-!
# Template — templates that are written are read back

Categories are read back in every form, and templates in every form that tells the extra keys anywhere in them from the
fields (`Template.Told`, `Template.reads_form`).
-/
namespace Bestiary

open Intake (Reads)

variable {form : Form}

namespace Category

def written (c : Category) : List (Key × Json) := [(Field.id, .str c.id.text), (Field.name, .str c.name.text)]

theorem write_form (form : Form) (c : Category) : c.write form = .obj (form.entries c.written []) :=
  Form.record_fields form c.written

theorem reads_form (form : Form) (c : Category) : Reads (Category.read (c.write form)) c := by
  rw [write_form, Category.read, Intake.record]
  have found := Reads.found_bare form keys c.written (by decide) rfl
  obtain ⟨id, name⟩ := c
  simp only [written, List.forall_mem_cons] at found
  obtain ⟨id_found, name_found, -⟩ := found
  refine .seqLeft ?_ (.noExtras (by decide) rfl)
  refine .seq ?_ (name_found.required (.label name))
  exact .map Category.mk (id_found.required (.label id))

end Category

namespace Template

def rechargesValue (form : Form) (recharges : Option (List Recharge)) : Json :=
  (recharges.map fun rs => Json.arr (rs.map (Recharge.write form))).getD .null

/-- The fields of a template, written in a form. -/
def parts (form : Form) (t : Template) : List (Key × Json) :=
  [(Field.id, .str t.id.text), (Field.name, .str t.name.text), (Field.category, .str t.category),
    (Field.description, .str t.description), (Field.maxLegendaryActions, Json.ofNat? t.maxLegendary),
    (Field.maxMythicActions, Json.ofNat? t.maxMythic), (Field.paragonPhases, Json.ofNat? t.paragonPhases),
    (Field.villainActionsPerRound, Json.ofNat? t.villainPerRound),
    (Field.rechargeAbilities, rechargesValue form t.recharges),
    (Field.actions, .arr (t.actions.map (Action.write form)))]

/-- **The form tells every extra key in a template from the fields.** -/
def Told (form : Form) (t : Template) : Prop := ∀ a ∈ t.actions, a.Told form

theorem told_full (t : Template) : t.Told .full := fun a _ => a.told_full

theorem write_form (form : Form) (t : Template) : t.write form = .obj (form.entries (t.parts form) []) :=
  Form.record_fields form (t.parts form)

/-- **A template that is written is read back**, in every form that tells its extra keys. -/
theorem reads_form {t : Template} (told : t.Told form) : Reads (Template.read (t.write form)) t := by
  rw [write_form, Template.read, Intake.record]
  have found := Reads.found_bare form keys (t.parts form) (by decide) rfl
  obtain ⟨id, name, category, description, legendary, mythic, paragon, villain, recharges, actions⟩ := t
  simp only [parts, List.forall_mem_cons] at found
  obtain ⟨id_found, name_found, category_found, description_found, legendary_found, mythic_found, paragon_found,
    villain_found, recharges_found, actions_found, -⟩ := found
  have recharges_read : Reads (Intake.nullable (Intake.list Recharge.read) (rechargesValue form recharges)) recharges :=
    .nullable (by simp) recharges fun rs _ => .list fun r _ => r.reads_form form
  refine .seqLeft ?_ (.noExtras (by decide) rfl)
  refine .seq ?_ (actions_found.field (.list fun a mem => Action.reads_form (told a mem)))
  refine .seq ?_ (recharges_found.optional recharges_read)
  refine .seq ?_ (villain_found.optional (.nat? villain))
  refine .seq ?_ (paragon_found.optional (.nat? paragon))
  refine .seq ?_ (mythic_found.optional (.nat? mythic))
  refine .seq ?_ (legendary_found.optional (.nat? legendary))
  refine .seq ?_ (description_found.field (.text description))
  refine .seq ?_ (category_found.field (.text category))
  refine .seq ?_ (name_found.required (.label name))
  exact .map Template.mk (id_found.required (.label id))

end Template

end Bestiary
