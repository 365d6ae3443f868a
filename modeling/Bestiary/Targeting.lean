import Bestiary.Field
/-!
# Whom an effect applies to

An effect says whom it applies to by a choice: everyone, one side, so many at random, those in an area or
those with given ids. An area is for the table to interpret, so any extra key is kept with it.
-/
namespace Bestiary

/-- A region of the table. -/
structure Area where
  shape : Option String
  size : Option Nat
  origin : Json
  /-- What else is known about it. -/
  extras : Extras [Field.shape, Field.size, Field.origin]
  deriving DecidableEq, Repr, Inhabited

namespace Area

/-- The fields of an area. -/
def keys : List Key := [Field.shape, Field.size, Field.origin]

def read : Json → Intake Area :=
  Intake.record "AreaSpec" fun e =>
    Area.mk <$> Intake.optional e Field.shape Intake.text
      <*> Intake.optional e Field.size Intake.nat
      <*> Intake.field e Field.origin .null Intake.free
      <*> Intake.extras e keys

def write (form : Form) (a : Area) : Json :=
  .obj (form.extended
    [form.field Field.shape (Json.ofText? a.shape), form.field Field.size (Json.ofNat? a.size),
      form.field Field.origin a.origin] a.extras.entries)

end Area

/-- Whom an effect applies to. -/
structure Targeting where
  choice : Choice
  /-- How many are chosen at random. -/
  count : Nat
  ids : List String
  /-- The area that targets stand in. -/
  area : Option Area
  deriving DecidableEq, Repr, Inhabited

namespace Targeting

/-- Those with these ids. -/
def specific (ids : List String) : Targeting := ⟨.specific, 1, ids, none⟩

/-- The fields of a targeting. -/
def keys : List Key := [Field.kind, Field.count, Field.ids, Field.area]

def read : Json → Intake Targeting :=
  Intake.record "TargetSpec" fun e =>
    Targeting.mk <$> Intake.required e Field.kind Intake.tag
      <*> Intake.field e Field.count 1 Intake.nat
      <*> Intake.field e Field.ids [] (Intake.list Intake.text)
      <*> Intake.optional e Field.area Area.read
      <* Intake.noExtras e keys

def write (form : Form) (t : Targeting) : Json :=
  form.record
    [form.field Field.kind (.str t.choice.name), form.field Field.count (.int t.count),
      form.field Field.ids (Json.texts t.ids), form.field Field.area ((t.area.map (Area.write form)).getD .null)]

end Targeting

end Bestiary
