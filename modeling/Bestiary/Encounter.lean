import Bestiary.Act
import Bestiary.Combatant
import Bestiary.Dice.Cup
import Bestiary.Emission
import Bestiary.Scribe
/-!
# Encounters

An encounter is a roster of combatants, the round, the reaction and the bonus action that are shared by all,
the event that currently offers reactions, and the sources of chance. What the table knows beyond the rules
is its world: where things are, who resists what, what can be summoned. Without a world hit points are kept
within bounds, conditions are always set, and nothing moves or appears.
-/
namespace Bestiary

/-- How advantage and disadvantage at once are rolled. -/
inductive AdvantageRule where
  /-- They cancel, and one die is rolled. -/
  | cancel
  /-- The higher of two dice meets a third, and the lower counts. -/
  | sequential
  deriving DecidableEq, Repr, Inhabited

namespace AdvantageRule

/-- The name of a rule. -/
def name : AdvantageRule → String
  | .cancel => "cancel"
  | .sequential => "sequential"

instance : Tag AdvantageRule where
  all := [.cancel, .sequential]
  name := name
  find?_name a := by cases a <;> rfl

end AdvantageRule

/-- Some combatants, by their ids, or all of them. -/
inductive Group where
  | everyone
  | only (ids : List String)
  deriving DecidableEq, Repr

namespace Group

def nobody : Group := .only []

/-- Whether the combatant with this id belongs to the group. -/
def has (g : Group) (id : String) : Bool :=
  match g with
  | .everyone => true
  | .only ids => ids.contains id

end Group

/-- What the table knows and does beyond the rules. -/
structure World where
  totals : List (String × Int)
  /-- The ids of those in a region, if the table knows regions. -/
  area : Option Area → Option (List String)
  immune : List String
  resist : List String
  vulnerable : List String
  refuseConditions : Group
  movement : Group
  /-- How many creatures can be summoned. -/
  summons : Nat
  /-- To whom damage cannot be dealt at all. -/
  damageOffline : List String
  /-- Who cannot be healed at all. -/
  healingOffline : List String
  /-- On whom conditions cannot be set at all. -/
  conditionOffline : List String
  /-- Who cannot be moved at all. -/
  movementOffline : List String
  /-- Whether nothing can be summoned at all. -/
  summonOffline : Bool
  /-- Whether areas cannot be asked for at all. -/
  areaOffline : Bool
  /-- Who dumps what is left to the table. -/
  dumper : Dumper
  /-- Who prints the creatures that cannot be summoned. -/
  printer : Printer

namespace World

/-- The world of the rules alone. -/
def plain : World :=
  { totals := [], area := fun _ => none, immune := [], resist := [], vulnerable := [], refuseConditions := .nobody,
    movement := .nobody, summons := 0, damageOffline := [], healingOffline := [], conditionOffline := [],
    movementOffline := [], summonOffline := false, areaOffline := false, dumper := .usual, printer := .usual }

end World

/-- The numbers that random choices are made with, in turn, over and over. -/
structure Draws where
  /-- The numbers; choices take the first of what is left when there are none. -/
  numbers : List Int
  drawn : Nat
  deriving DecidableEq, Repr

namespace Draws

/-- A number below `n`, for a positive `n`. -/
def below (n : Nat) (d : Draws) : Nat × Draws :=
  if d.numbers = [] then (0, d)
  else (((d.numbers[d.drawn % d.numbers.length]?.getD 0) % n).toNat, { d with drawn := d.drawn + 1 })

end Draws

structure Encounter where
  roster : List Combatant
  round : Int
  /-- Whether it is the turn of the creature that acts. -/
  onTurn : Bool
  reactionUsed : Bool
  /-- Whether the bonus action is spent. -/
  bonusUsed : Bool
  trigger : Option TriggerEvent
  rule : AdvantageRule
  clock : Moment
  cup : Dice.Cup
  /-- What random choices are made with. -/
  draws : Draws
  /-- What the table knows beyond the rules. -/
  world : World
  summoned : Nat
  /-- The notations rolled for amounts, in order. -/
  rolled : List String
  /-- What was reported and announced, in order. -/
  journal : List Emission

/-- Why an effect is not applied. -/
inductive Mishap where
  | noCreature
  | amount (cause : Dice.Cause)
  /-- The table does not answer a request. -/
  | offline (request : String) (target : Option String)
  /-- A scribe refuses a document. -/
  | unwritten (reason : String)
  deriving DecidableEq, Repr

/-- The wording of a mishap. -/
def Mishap.message : Mishap → String
  | .noCreature => "Summon effect has no creature to summon"
  | .amount cause => cause.message
  | .offline request target => request ++ " backend offline for " ++ target.getD "None"
  | .unwritten reason => reason

/-- Someone an effect applies to: a combatant as it was when it was chosen, and its place on the roster, if it
has one. -/
structure Target where
  seat : Option Nat
  combatant : Combatant
  deriving DecidableEq, Repr

namespace Target

/-- The id of a target. -/
def id (t : Target) : String := t.combatant.id

end Target

/-- A step of an encounter that may fail. -/
abbrev Deed := Act Encounter Mishap

namespace Encounter

def note (n : Notice) (e : Encounter) : Encounter := { e with journal := e.journal ++ [.note n] }

/-- The combatants with their places. -/
def seats (e : Encounter) : List Target := e.roster.zipIdx.map fun (c, n) => ⟨some n, c⟩

/-- The first combatant with this id. -/
def seat? (e : Encounter) (id : String) : Option Target := e.seats.find? fun t => t.id == id

/-- The encounter with a change to the combatant at a target's place. -/
def alter (t : Target) (change : Combatant → Combatant) (e : Encounter) : Encounter :=
  match t.seat with
  | some n => { e with roster := e.roster.modify n change }
  | none => e

/-- Rolls a die with so many sides. -/
def rollDie (sides : Nat) (e : Encounter) : Int × Encounter :=
  match (Dice.Cup.rollDie sides).run e.cup with
  | (.ok r, cup) => (r.total, note (.rolled r.text r.total) { e with cup := cup })
  | (.error _, cup) => (0, { e with cup := cup })

/-- Rolls so many dice. -/
def rollDice (sides : Nat) : Nat → Encounter → List Int × Encounter
  | 0, e => ([], e)
  | n + 1, e =>
    let (first, e) := rollDie sides e
    let (rest, e) := rollDice sides n e
    (first :: rest, e)

/-- What the text of an amount comes to. -/
def rollAmount (text : String) : Deed Int := fun e =>
  let e := { e with rolled := e.rolled ++ [text] }
  match e.world.totals.lookup text with
  | some n => (.ok n, e)
  | none =>
    match (Dice.Cup.reckon text).run e.cup with
    | (.error cause, cup) => (.error (.amount cause), { e with cup := cup })
    | (.ok (.plain n), cup) => (.ok n, { e with cup := cup })
    | (.ok (.rolled r), cup) => (.ok r.total, note (.rolled r.text r.total) { e with cup := cup })
    | (.ok (.refused text refusal), cup) =>
      (.ok 0, note (.badNotation text refusal.message) { e with cup := cup })

/-- What a quantity comes to. -/
def amount : Quantity → Deed Int
  | .fixed n => Act.pure n
  | .rolled text => rollAmount text

/-- Hit points after a change, within zero and the maximum. -/
def bounded (c : Combatant) (hp : Int) : Int := max 0 (min c.maxHp hp)

/-- The combatant after damage. -/
def wound (n : Int) (c : Combatant) : Combatant := { c with hp := bounded c (c.hp - n) }

/-- The combatant after healing. -/
def mend (n : Int) (c : Combatant) : Combatant := { c with hp := bounded c (c.hp + n) }

/-- How the world takes damage to a combatant: the part that counts, and whether the combatant resists it, is
immune or vulnerable to it. -/
def weigh (w : World) (id : String) (n : Int) : Int × Bool × Bool × Bool :=
  if w.immune.contains id then (0, false, true, false)
  else if w.resist.contains id then (n / 2, true, false, false)
  else if w.vulnerable.contains id then (n * 2, false, false, true)
  else (n, false, false, false)

/-- Deals damage to a target. -/
def damage (t : Target) (n : Int) (kind : Option String) (saved : Option Bool) : Deed DamageLine := fun e =>
  if e.world.damageOffline.contains t.id then (.error (.offline "damage" (some t.id)), e)
  else
    let (n, resisted, immune, vulnerable) := weigh e.world t.id n
    let n := max 0 n
    (.ok ⟨t.id, n, resisted, immune, vulnerable, saved⟩, note (.damaged t.id n kind) (e.alter t (wound n)))

def heal (t : Target) (n : Int) : Deed HealingLine := fun e =>
  if e.world.healingOffline.contains t.id then (.error (.offline "healing" (some t.id)), e)
  else
    let n := max 0 n
    (.ok ⟨t.id, n⟩, note (.healed t.id n) (e.alter t (mend n)))

/-- Sets a condition on a target, unless the world refuses it; whether it was set. -/
def setCondition (t : Target) (condition : AppliedCondition) : Deed Bool := fun e =>
  if e.world.conditionOffline.contains t.id then (.error (.offline "condition" (some t.id)), e)
  else if e.world.refuseConditions.has t.id then (.ok false, e)
  else
    (.ok true, note (.conditionSet t.id condition.name.text condition.duration)
      (e.alter t fun c => { c with conditions := c.conditions ++ [condition] }))

/-- Moves a target, if the world can; whether it did, and where the target is then. -/
def move (t : Target) (distance : Nat) (direction : Option String) : Deed (Bool × Json) := fun e =>
  if e.world.movementOffline.contains t.id then (.error (.offline "movement" (some t.id)), e)
  else if e.world.movement.has t.id then (.ok (true, .arr [.int distance, Json.ofText? direction]), e)
  else (.ok (false, .null), note (.notMoved t.id distance) e)

/-- Summons a creature, if the world can. Else the creature is printed for the log. -/
def summon (creature position : Json) : Deed (Option Json) := fun e =>
  if e.world.summonOffline then (.error (.offline "summon" none), e)
  else if e.summoned < e.world.summons then
    let e := { e with summoned := e.summoned + 1 }
    (.ok (some (.obj [("creature", creature), ("position", position), ("index", .int e.summoned)])), e)
  else match e.world.printer.refusal? creature with
    | some reason => (.error (.unwritten reason), e)
    | none => (.ok none, note (.notSummoned creature) e)

/-- Those in a region, if the world knows regions. -/
def inArea (region : Option Area) : Deed (Option (List Target)) := fun e =>
  if e.world.areaOffline then (.error (.offline "area" none), e)
  else (.ok ((e.world.area region).map fun ids => ids.filterMap e.seat?), e)

/-- The dump of a document that is left to the table. -/
def dump (j : Json) : Deed Json := fun e =>
  match e.world.dumper.dump j with
  | .ok dumped => (.ok dumped, e)
  | .error reason => (.error (.unwritten reason), e)

end Encounter

end Bestiary
