import Bestiary.Effect
/-!
# Effects in documents

The `type` of an object says which effect it is. Effects nest, so reading recurses on the document: for each
entry of an object there is a reading of its value as a list of effects, of which only those are run that the
effect's fields ask for. A branch of a save may be a single effect or null.

Effects are read however deep they nest. The guard against documents that contain themselves, which refuses
effects that nest 255 deep or deeper, is not part of the reader.
-/
namespace Bestiary

namespace Intake

/-- An amount: an integer or a text as it is, anything else as the integer it stands for. -/
def quantity : Json → Intake Quantity
  | .int n => Intake.pure (.fixed n)
  | .str s => Intake.pure (.rolled s)
  | .torn points => Intake.pure (.rolled (Json.shown points))
  | j =>
    match intOf j with
    | .ok n => Intake.pure (.fixed n)
    | .error cause => fun s => (.error [⟨cause, [.key "int"]⟩, ⟨.stringType, [.key "str"]⟩], s)

end Intake

/-- The document of an amount. -/
def Quantity.toJson : Quantity → Json
  | .fixed n => .int n
  | .rolled text => .str text

namespace Effect

open Intake

/-- The targets of an effect. -/
def readTargets (e : Entries) : Intake (Option Targeting) := optional e Field.targets Targeting.read

/-- The save of an impact. -/
def readSave (e : Entries) : Intake (Option Save) := optional e Field.save Save.read

/-- Reads an effect that deals damage. -/
def readDamage (e : Entries) : Intake Effect :=
  (fun t n k s => .impact t (.damage n k s)) <$> readTargets e
    <*> field e Field.damage (.fixed 0) quantity
    <*> optional e Field.damageType text
    <*> readSave e
    <* noExtras e [Field.targets, Field.kind, Field.damage, Field.damageType, Field.save]

/-- Reads an effect that heals. -/
def readHealing (e : Entries) : Intake Effect :=
  (fun t n => .impact t (.healing n)) <$> readTargets e
    <*> field e Field.healing (.fixed 0) quantity
    <* noExtras e [Field.targets, Field.kind, Field.healing]

/-- Reads an effect that sets a condition. -/
def readCondition (e : Entries) : Intake Effect :=
  (fun t c d s => .impact t (.condition c d s)) <$> readTargets e
    <*> required e Field.condition label
    <*> optional e Field.duration nat
    <*> readSave e
    <* noExtras e [Field.targets, Field.kind, Field.condition, Field.duration, Field.save]

/-- Reads an effect that moves. -/
def readMovement (e : Entries) : Intake Effect :=
  (fun t d dir s => .impact t (.movement d dir s)) <$> readTargets e
    <*> field e Field.distance 0 nat
    <*> optional e Field.direction text
    <*> readSave e
    <* noExtras e [Field.targets, Field.kind, Field.distance, Field.direction, Field.save]

/-- Reads an effect that summons. -/
def readSummon (e : Entries) : Intake Effect :=
  (fun t c n p => .impact t (.summon c n p)) <$> readTargets e
    <*> field e Field.creature .null free
    <*> field e Field.count 1 nat
    <*> field e Field.position .null free
    <* noExtras e [Field.targets, Field.kind, Field.creature, Field.count, Field.position]

/-- Reads a custom effect. -/
def readCustom (e : Entries) : Intake Effect :=
  (fun t p x => .impact t (.custom p x)) <$> readTargets e
    <*> field e Field.payload Extras.empty dictionary
    <*> extras e customKeys

/-- The readings of nested effects, by the keys they stand under. -/
abbrev Nested := List (String × Intake (List Effect))

/-- A field with nested effects. -/
def readNested (e : Entries) (nested : Nested) (key : Key) : Intake (List Effect) :=
  match key.find? e with
  | some (k, _) => inside (.key k) ((nested.lookup k).getD (issue .listType))
  | none => pure []

def readArea (e : Entries) (lists : Nested) : Intake Effect :=
  Effect.area <$> readTargets e
    <*> optional e Field.area Area.read
    <*> readNested e lists Field.effects
    <* noExtras e [Field.targets, Field.kind, Field.area, Field.effects]

/-- Reads a save with its branches. -/
def readBranching (e : Entries) (branches : Nested) : Intake Effect :=
  Effect.save <$> readTargets e
    <*> Save.readFields e
    <*> readNested e branches Field.onSuccess
    <*> readNested e branches Field.onFailure
    <* noExtras e (Field.targets :: Save.keys ++ [Field.kind, Field.onSuccess, Field.onFailure])

/-- Reads the effect that the `type` of an object tells. -/
def readTagged (e : Entries) (lists branches : Nested) : Intake Effect :=
  match e.lookup "type" with
  | none => issue .noTag
  | some tag =>
    match (match tag with | .str s => Tag.ofName? s | _ => none : Option EffectKind) with
    | none => issue (.unknownTag tag (Tag.names EffectKind))
    | some kind => inside (.key kind.name) <| match kind with
      | .damage => readDamage e
      | .healing => readHealing e
      | .condition => readCondition e
      | .movement => readMovement e
      | .summon => readSummon e
      | .area => readArea e lists
      | .save => readBranching e branches
      | .custom => readCustom e

mutual

def read : Json → Intake Effect
  | .obj entries => readTagged entries (listsIn entries) (branchesIn entries)
  | _ => issue .notTagged

/-- The readings of the values of an object as lists of effects. -/
def listsIn : List (String × Json) → Nested
  | [] => []
  | (key, value) :: rest => (key, readList value) :: listsIn rest

/-- The readings of the values of an object as branches. -/
def branchesIn : List (String × Json) → Nested
  | [] => []
  | (key, value) :: rest => (key, readBranch value) :: branchesIn rest

/-- Reads a list of effects. -/
def readList : Json → Intake (List Effect)
  | .arr items => readItems 0 items
  | _ => issue .listType

/-- Reads a branch: a list of effects, a single effect, or null for none. -/
def readBranch : Json → Intake (List Effect)
  | .null => Intake.pure []
  | .arr items => readItems 0 items
  | .obj entries =>
    Intake.map (fun effect => [effect]) (inside (.index 0) (readTagged entries (listsIn entries) (branchesIn entries)))
  | _ => issue .listType

/-- Reads effects from an index on. -/
def readItems : Nat → List Json → Intake (List Effect)
  | _, [] => Intake.pure []
  | n, item :: items =>
    Intake.map (fun p => p.1 :: p.2) (Intake.pair (inside (.index n) (read item)) (readItems (n + 1) items))

end

def targetsField (form : Form) (targets : Option Targeting) : String × Json :=
  form.field Field.targets ((targets.map (Targeting.write form)).getD .null)

/-- The written save of an impact. -/
def saveField (form : Form) (save : Option Save) : String × Json :=
  form.field Field.save ((save.map (Save.write form)).getD .null)

/-- The written kind of an effect. -/
def kindField (form : Form) (kind : EffectKind) : String × Json := form.field Field.kind (.str kind.name)

/-- Writes an effect that does something to its targets. -/
def writeImpact (form : Form) (targets : Option Targeting) : Impact → Json
  | .damage amount kind s =>
    form.record [targetsField form targets, kindField form .damage, form.field Field.damage amount.toJson,
      form.field Field.damageType (Json.ofText? kind), saveField form s]
  | .healing amount =>
    form.record [targetsField form targets, kindField form .healing, form.field Field.healing amount.toJson]
  | .condition condition duration s =>
    form.record [targetsField form targets, kindField form .condition,
      form.field Field.condition (.str condition.text), form.field Field.duration (Json.ofNat? duration),
      saveField form s]
  | .movement distance direction s =>
    form.record [targetsField form targets, kindField form .movement, form.field Field.distance (.int distance),
      form.field Field.direction (Json.ofText? direction), saveField form s]
  | .summon creature count position =>
    form.record [targetsField form targets, kindField form .summon, form.field Field.creature creature,
      form.field Field.count (.int count), form.field Field.position position]
  | .custom payload extras =>
    .obj (form.extended [targetsField form targets, kindField form .custom,
      form.field Field.payload (.obj payload.entries)] extras.entries)

mutual

def write (form : Form) : Effect → Json
  | .impact t i => writeImpact form t i
  | .area t region effects =>
    form.record [targetsField form t, kindField form .area,
      form.field Field.area ((region.map (Area.write form)).getD .null),
      form.field Field.effects (.arr (writeAll form effects))]
  | .save t s onSuccess onFailure =>
    form.record (targetsField form t :: s.fields form ++
      [kindField form .save, form.field Field.onSuccess (.arr (writeAll form onSuccess)),
        form.field Field.onFailure (.arr (writeAll form onFailure))])

def writeAll (form : Form) : List Effect → List Json
  | [] => []
  | effect :: effects => write form effect :: writeAll form effects

end

end Effect

end Bestiary
