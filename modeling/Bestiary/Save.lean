import Bestiary.Field
/-!
# Saving throws

A save is rolled with an ability against a difficulty, and says what a success changes.
-/
namespace Bestiary

/-- A save and what its success changes. -/
structure Save where
  /-- The ability it is rolled with. -/
  ability : Option Ability
  dc : Option Int
  /-- Whether the higher of two dice counts. -/
  advantage : Bool
  /-- Whether the lower of two dice counts. -/
  disadvantage : Bool
  half : Bool
  /-- Whether a success undoes the effect. -/
  negate : Bool
  /-- Whether a success halves the duration of a condition, rounded up. -/
  halfDuration : Bool
  /-- Whether a success halves the distance of a movement, rounded down. -/
  halfDistance : Bool
  deriving DecidableEq, Repr, Inhabited

namespace Save

/-- The fields of a save. -/
def keys : List Key :=
  [Field.ability, Field.dc, Field.advantage, Field.disadvantage, Field.halfOnSuccess, Field.negateOnSuccess,
    Field.halfDurationOnSuccess, Field.halfDistanceOnSuccess]

/-- Reads the fields of a save. -/
def readFields (e : Entries) : Intake Save :=
  Save.mk <$> Intake.optional e Field.ability Intake.ability
    <*> Intake.optional e Field.dc Intake.int
    <*> Intake.field e Field.advantage false Intake.bool
    <*> Intake.field e Field.disadvantage false Intake.bool
    <*> Intake.field e Field.halfOnSuccess false Intake.bool
    <*> Intake.field e Field.negateOnSuccess false Intake.bool
    <*> Intake.field e Field.halfDurationOnSuccess false Intake.bool
    <*> Intake.field e Field.halfDistanceOnSuccess false Intake.bool

def read : Json → Intake Save := Intake.record "SaveSpec" fun e => readFields e <* Intake.noExtras e keys

/-- The written fields of a save. -/
def fields (form : Form) (s : Save) : Entries :=
  [form.field Field.ability (Json.ofText? (s.ability.map Ability.name)), form.field Field.dc (Json.ofInt? s.dc),
    form.field Field.advantage (.bool s.advantage), form.field Field.disadvantage (.bool s.disadvantage),
    form.field Field.halfOnSuccess (.bool s.half), form.field Field.negateOnSuccess (.bool s.negate),
    form.field Field.halfDurationOnSuccess (.bool s.halfDuration),
    form.field Field.halfDistanceOnSuccess (.bool s.halfDistance)]

def write (form : Form) (s : Save) : Json := form.record (s.fields form)

end Save

end Bestiary
