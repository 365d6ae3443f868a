import Bestiary.Action
/-!
# Templates

A template is a reusable set of actions with the pools they draw on, filed under a category. Templates travel
in an export, together with the categories.
-/
namespace Bestiary

/-- A named group of templates. -/
structure Category where
  id : Label
  name : Label
  deriving DecidableEq, Repr

namespace Category

/-- The fields of a category. -/
def keys : List Key := [Field.id, Field.name]

def read : Json → Intake Category :=
  Intake.record "TemplateCategory" fun e =>
    Category.mk <$> Intake.required e Field.id Intake.label
      <*> Intake.required e Field.name Intake.label
      <* Intake.noExtras e keys

def write (form : Form) (c : Category) : Json :=
  form.record [form.field Field.id (.str c.id.text), form.field Field.name (.str c.name.text)]

end Category

/-- A reusable set of actions. -/
structure Template where
  id : Label
  /-- The name of creatures made from it. -/
  name : Label
  category : String
  /-- The notes of creatures made from it. -/
  description : String
  /-- Legendary actions per round, if there are any. -/
  maxLegendary : Option Nat
  /-- Mythic actions per round, if there are any. -/
  maxMythic : Option Nat
  /-- The number of paragon phases, if there are any. -/
  paragonPhases : Option Nat
  /-- Villain actions per round, if there are any. -/
  villainPerRound : Option Nat
  /-- Recharges beyond those that follow from the actions. -/
  recharges : Option (List Recharge)
  actions : List Action
  deriving Repr

namespace Template

/-- The fields of a template. -/
def keys : List Key :=
  [Field.id, Field.name, Field.category, Field.description, Field.maxLegendaryActions, Field.maxMythicActions,
    Field.paragonPhases, Field.villainActionsPerRound, Field.rechargeAbilities, Field.actions]

def read : Json → Intake Template :=
  Intake.record "CreatureTemplate" fun e =>
    Template.mk <$> Intake.required e Field.id Intake.label
      <*> Intake.required e Field.name Intake.label
      <*> Intake.field e Field.category "" Intake.text
      <*> Intake.field e Field.description "" Intake.text
      <*> Intake.optional e Field.maxLegendaryActions Intake.nat
      <*> Intake.optional e Field.maxMythicActions Intake.nat
      <*> Intake.optional e Field.paragonPhases Intake.nat
      <*> Intake.optional e Field.villainActionsPerRound Intake.nat
      <*> Intake.optional e Field.rechargeAbilities (Intake.list Recharge.read)
      <*> Intake.field e Field.actions [] (Intake.list Action.read)
      <* Intake.noExtras e keys

/-- The written fields that a creature made from the template takes over. -/
def creatureFields (form : Form) (t : Template) : Entries :=
  [form.field Field.description (.str t.description),
    form.field Field.maxLegendaryActions (Json.ofNat? t.maxLegendary),
    form.field Field.maxMythicActions (Json.ofNat? t.maxMythic),
    form.field Field.paragonPhases (Json.ofNat? t.paragonPhases),
    form.field Field.villainActionsPerRound (Json.ofNat? t.villainPerRound),
    form.field Field.rechargeAbilities
      ((t.recharges.map fun rs => Json.arr (rs.map (Recharge.write form))).getD .null),
    form.field Field.actions (.arr (t.actions.map (Action.write form)))]

def write (form : Form) (t : Template) : Json :=
  form.record
    (form.field Field.id (.str t.id.text) :: form.field Field.name (.str t.name.text) ::
      form.field Field.category (.str t.category) :: t.creatureFields form)

end Template

/-- Categories and templates on their way to another catalogue. -/
structure Export where
  categories : List Category
  templates : List Template
  version : String
  date : Moment
  deriving Repr

namespace Export

/-- The fields of an export. -/
def keys : List Key := [Field.categories, Field.templates, Field.version, Field.exportDate]

def read : Json → Intake Export :=
  Intake.record "TemplateExport" fun e =>
    Export.mk <$> Intake.field e Field.categories [] (Intake.list Category.read)
      <*> Intake.field e Field.templates [] (Intake.list Template.read)
      <*> Intake.required e Field.version Intake.text
      <*> Intake.required e Field.exportDate Intake.moment
      <* Intake.noExtras e keys

def write (form : Form) (x : Export) : Json :=
  form.record
    [form.field Field.categories (.arr (x.categories.map (Category.write form))),
      form.field Field.templates (.arr (x.templates.map (Template.write form))),
      form.field Field.version (.str x.version), form.field Field.exportDate (.str x.date.text)]

end Export

end Bestiary
