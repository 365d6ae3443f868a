import Bestiary.Field
/-!
# Combatants

Whoever takes part in an encounter: a side, hit points, conditions, ability scores and save bonuses. The table
may keep more about a combatant under keys of its own.
-/
namespace Bestiary

/-- A condition that a combatant is under. -/
structure AppliedCondition where
  name : Label
  /-- The rounds it lasts; for good if there are none. -/
  duration : Option Int
  source : Option String
  deriving DecidableEq, Repr

namespace AppliedCondition

/-- The fields of a condition. -/
def keys : List Key := [Field.name, Field.duration, Field.source]

def read : Json → Intake AppliedCondition :=
  Intake.record "AppliedCondition" fun e =>
    AppliedCondition.mk <$> Intake.required e Field.name Intake.label
      <*> Intake.optional e Field.duration Intake.int
      <*> Intake.optional e Field.source Intake.text
      <* Intake.noExtras e keys

def write (form : Form) (c : AppliedCondition) : Json :=
  form.record
    [form.field Field.name (.str c.name.text), form.field Field.duration (Json.ofInt? c.duration),
      form.field Field.source (Json.ofText? c.source)]

end AppliedCondition

structure Scores where
  /-- The abilities with their numbers, in order. -/
  entries : List (Ability × Int)
  once : (entries.map (·.1)).Nodup
  deriving DecidableEq, Repr

namespace Scores

def empty : Scores := ⟨[], List.nodup_nil⟩

/-- The number of an ability. -/
def get? (s : Scores) (a : Ability) : Option Int := s.entries.lookup a

/-- Each item with its ability; the last item of an ability counts and takes the first one's place. -/
def gather {α : Type} : List (Ability × α) → List (Ability × α)
  | [] => []
  | (a, x) :: rest =>
    let latest := ((rest.reverse.lookup a).getD x)
    (a, latest) :: (gather rest).filter fun entry => entry.1 ≠ a

theorem gather_keys_nodup {α : Type} (items : List (Ability × α)) : ((gather items).map (·.1)).Nodup := by
  induction items with
  | nil => exact List.nodup_nil
  | cons item rest ih =>
    simp only [gather, List.map_cons, List.nodup_cons, List.mem_map, List.mem_filter, decide_eq_true_eq]
    constructor
    · rintro ⟨entry, h, he⟩
      exact h.2 he
    · exact ih.sublist (List.Sublist.map _ List.filter_sublist)

/-- The abilities that the keys of an object name. -/
def keyed : Entries → Except Issue.Cause (List (Ability × Json))
  | [] => .ok []
  | (key, value) :: rest =>
    match Ability.parse? key with
    | some a => (keyed rest).map ((a, value) :: ·)
    | none => .error (.value (Ability.unknown (Text.quoted key)))

/-- Reads a number for each ability. -/
def readAll : List (Ability × Json) → Intake (List (Ability × Int))
  | [] => Intake.pure []
  | (a, j) :: rest =>
    Intake.map (fun p => (a, p.1) :: p.2) (Intake.pair (Intake.inside (.key a.name) (Intake.int j)) (readAll rest))

/-- Reads numbers by ability. Keys are names or abbreviations of abilities. -/
def read : Json → Intake Scores
  | .obj entries =>
    match keyed entries with
    | .ok items => Intake.map (fun all => ⟨gather all, gather_keys_nodup all⟩) (readAll (gather items))
    | .error cause => Intake.issue cause
  | _ => Intake.issue .dictType

/-- Writes numbers by ability. -/
def write (s : Scores) : Json := .obj (s.entries.map fun entry => (entry.1.name, .int entry.2))

end Scores

/-- The fields of a combatant. -/
def combatantKeys : List Key :=
  [Field.id, Field.name, Field.kind, Field.hp, Field.maxHp, Field.conditions, Field.abilities, Field.savingThrows,
    Field.position]

/-- Someone who takes part in an encounter. -/
structure Combatant where
  id : String
  name : Name 100
  side : Side
  hp : Int
  maxHp : Nat
  conditions : List AppliedCondition
  abilities : Scores
  /-- The save bonuses that do not follow from ability scores. -/
  savingThrows : Scores
  position : Json
  /-- What else is known about the combatant. -/
  extras : Entries
  deriving DecidableEq, Repr

namespace Combatant

/-- Whether the combatant has hit points left. -/
def isConscious (c : Combatant) : Bool := 0 < c.hp

/-- Whether the combatant is under a condition of this name. -/
def hasCondition (c : Combatant) (name : String) : Bool := c.conditions.any fun a => a.name.text == name

/-- The score of an ability, ten if none is declared. -/
def abilityScore (c : Combatant) (a : Ability) : Int := (c.abilities.get? a).getD 10

/-- The bonus to saves with an ability: the declared one, or half of what the score is above ten. -/
def savingThrowBonus (c : Combatant) (a : Ability) : Int :=
  (c.savingThrows.get? a).getD ((c.abilityScore a - 10) / 2)

def read : Json → Intake Combatant :=
  Intake.record "Combatant" fun e =>
    Combatant.mk <$> Intake.made e Field.id Intake.newId Intake.text
      <*> Intake.required e Field.name (Intake.name 100)
      <*> Intake.field e Field.kind .monster Intake.tag
      <*> Intake.field e Field.hp 1 Intake.int
      <*> Intake.field e Field.maxHp 1 Intake.nat
      <*> Intake.field e Field.conditions [] (Intake.list AppliedCondition.read)
      <*> Intake.field e Field.abilities Scores.empty Scores.read
      <*> Intake.field e Field.savingThrows Scores.empty Scores.read
      <*> Intake.field e Field.position .null Intake.free
      <*> Intake.map Extras.entries (Intake.extras e combatantKeys)

/-- Writes a combatant, and whether the combatant is conscious. -/
def write (form : Form) (c : Combatant) : Json :=
  .obj ((form.extended
    [form.field Field.id (.str c.id), form.field Field.name (.str c.name.text),
      form.field Field.kind (.str c.side.name), form.field Field.hp (.int c.hp),
      form.field Field.maxHp (.int c.maxHp),
      form.field Field.conditions (.arr (c.conditions.map (AppliedCondition.write form))),
      form.field Field.abilities c.abilities.write, form.field Field.savingThrows c.savingThrows.write,
      form.field Field.position c.position] c.extras).put
    (form.field Field.isConscious .null).1 (.bool c.isConscious))

/-- How a change to a combatant is refused. -/
inductive AssignFault where
  | computed (field : String)
  | issues (issues : List Issue)
  deriving DecidableEq, Repr

/-- The combatant with another value in a field. What is no field becomes an extra key. -/
def assign (field : String) (value : Json) (c : Combatant) (supply : Supply) : Except AssignFault Combatant :=
  let set {α : Type} (read : Json → Intake α) (put : α → Combatant) : Except AssignFault Combatant :=
    match (Intake.inside (.key field) (read value)).run supply with
    | (.ok a, _) => .ok (put a)
    | (.error issues, _) => .error (.issues issues)
  match field with
  | "id" => set Intake.text fun v => { c with id := v }
  | "name" => set (Intake.name 100) fun v => { c with name := v }
  | "type" => set Intake.tag fun v => { c with side := v }
  | "hp" => set Intake.int fun v => { c with hp := v }
  | "max_hp" => set Intake.nat fun v => { c with maxHp := v }
  | "conditions" => set (Intake.list AppliedCondition.read) fun v => { c with conditions := v }
  | "abilities" => set Scores.read fun v => { c with abilities := v }
  | "saving_throws" => set Scores.read fun v => { c with savingThrows := v }
  | "position" => .ok { c with position := value }
  | "is_conscious" => .error (.computed field)
  | _ => .ok { c with extras := c.extras.put field value }

end Combatant

end Bestiary
