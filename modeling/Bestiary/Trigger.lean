import Bestiary.Field
/-!
# Triggers

A reaction may name the event that it answers; the table reports the event that currently offers reactions.
Events that the rules do not know are kept and never match.
-/
namespace Bestiary

namespace Intake

/-- The name of an event, known or not. -/
def occasion : Json → Intake String
  | .str s => Intake.pure s
  | .torn points => Intake.pure (Json.shown points)
  | _ => fun s =>
    (.error [⟨.enum (Tag.names Occasion), [.key "str-enum[TriggerType]"]⟩, ⟨.stringType, [.key "str"]⟩], s)

end Intake

/-- What a reaction answers. -/
structure Trigger where
  kind : String
  /-- The greatest range of an attack. -/
  range : Option Nat
  damageType : Option String
  /-- The least level of a spell. -/
  minLevel : Option Nat
  /-- The least distance of a movement. -/
  minDistance : Option Nat
  /-- What else is known about it. -/
  extras : Extras [Field.kind, Field.range, Field.damageType, Field.minLevel, Field.minDistance]
  deriving DecidableEq, Repr

/-- The event that currently offers reactions. -/
structure TriggerEvent where
  kind : String
  range : Option Int
  damageType : Option String
  spellLevel : Option Int
  distance : Option Int
  sourceId : Option String
  extras : Extras [Field.kind, Field.range, Field.damageType, Field.spellLevel, Field.distance, Field.sourceId]
  deriving DecidableEq, Repr

namespace Trigger

/-- The fields of a trigger. -/
def keys : List Key := [Field.kind, Field.range, Field.damageType, Field.minLevel, Field.minDistance]

def read : Json → Intake Trigger :=
  Intake.record "Trigger" fun e =>
    Trigger.mk <$> Intake.required e Field.kind Intake.occasion
      <*> Intake.optional e Field.range Intake.nat
      <*> Intake.optional e Field.damageType Intake.text
      <*> Intake.optional e Field.minLevel Intake.nat
      <*> Intake.optional e Field.minDistance Intake.nat
      <*> Intake.extras e keys

def write (form : Form) (t : Trigger) : Json :=
  .obj (form.extended
    [form.field Field.kind (.str t.kind), form.field Field.range (Json.ofNat? t.range),
      form.field Field.damageType (Json.ofText? t.damageType), form.field Field.minLevel (Json.ofNat? t.minLevel),
      form.field Field.minDistance (Json.ofNat? t.minDistance)] t.extras.entries)

/-- Whether a bound is absent, or a given value respects it. -/
def allows {α : Type} (respects : Int → α → Bool) (bound : Option α) (given : Option Int) : Bool :=
  match bound, given with
  | none, _ => true
  | some b, some n => respects n b
  | some _, none => false

/-- The event of the rules that a trigger names. -/
def occasion? (t : Trigger) : Option Occasion := Tag.ofName? t.kind

/-- Whether an event is what the trigger waits for. Only the bound that belongs to the kind of event counts. -/
def answers (t : Trigger) : Option TriggerEvent → Bool
  | none => false
  | some event =>
    t.kind == event.kind &&
      match t.occasion? with
      | some .attacked => allows (fun n most => n ≤ most) t.range event.range
      | some .damaged => t.damageType.isNone || event.damageType == t.damageType
      | some .spellCast => allows (fun n least => least ≤ n) t.minLevel event.spellLevel
      | some .movement => allows (fun n least => least ≤ n) t.minDistance event.distance
      | none => false

end Trigger

namespace TriggerEvent

/-- The fields of an event. -/
def keys : List Key :=
  [Field.kind, Field.range, Field.damageType, Field.spellLevel, Field.distance, Field.sourceId]

def read : Json → Intake TriggerEvent :=
  Intake.record "TriggerEvent" fun e =>
    TriggerEvent.mk <$> Intake.required e Field.kind Intake.occasion
      <*> Intake.optional e Field.range Intake.int
      <*> Intake.optional e Field.damageType Intake.text
      <*> Intake.optional e Field.spellLevel Intake.int
      <*> Intake.optional e Field.distance Intake.int
      <*> Intake.optional e Field.sourceId Intake.text
      <*> Intake.extras e keys

def write (form : Form) (t : TriggerEvent) : Json :=
  .obj (form.extended
    [form.field Field.kind (.str t.kind), form.field Field.range (Json.ofInt? t.range),
      form.field Field.damageType (Json.ofText? t.damageType), form.field Field.spellLevel (Json.ofInt? t.spellLevel),
      form.field Field.distance (Json.ofInt? t.distance), form.field Field.sourceId (Json.ofText? t.sourceId)]
    t.extras.entries)

end TriggerEvent

end Bestiary
