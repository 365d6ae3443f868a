import Bestiary.Encounter
/-!
# Finding targets

A targeting becomes a list of targets: those on the roster that it describes, in roster order, or those who
were selected beforehand. What cannot be resolved describes nobody.
-/
namespace Bestiary

/-- What is known about the use of an action. -/
structure Options where
  source : Option Target
  /-- The side that acts, if nobody on the roster does. -/
  sourceSide : Option Side
  selected : List Target
  deriving DecidableEq, Repr

namespace Options

def none : Options := ⟨.none, .none, []⟩

/-- The side that acts. -/
def side? (o : Options) : Option Side :=
  match o.source with
  | some t => some t.combatant.side
  | .none => o.sourceSide

end Options

namespace Draws

/-- The least `n` of which `4 ^ n` is at least the number. -/
def powersOfFour (target : Nat) : Nat → Nat → Nat
  | 0, n => n
  | fuel + 1, n => if target ≤ Nat.pow 4 n then n else powersOfFour target fuel (n + 1)

/-- The greatest number of items that are drawn from without putting them back. -/
def poolLimit (count : Nat) : Nat := if 5 < count then 21 + Nat.pow 4 (powersOfFour (3 * count) (3 * count) 0) else 21

variable {α : Type}

/-- So many items drawn one after the other; the last of those left takes the place of a drawn one. -/
def drawFrom : Nat → List α → Draws → List α × Draws
  | 0, _, d => ([], d)
  | count + 1, pool, d =>
    let (n, d) := below pool.length d
    match pool[n]?, pool.getLast? with
    | some drawn, some last =>
      let (rest, d) := drawFrom count (pool.set n last).dropLast d
      (drawn :: rest, d)
    | _, _ => ([], d)

/-- A place that is not taken, drawn again while it is. After a whole round of numbers the first free place is
taken. -/
def freePlace (size : Nat) (taken : List Nat) : Nat → Draws → Nat × Draws
  | 0, d => (((List.range size).find? fun n => !taken.contains n).getD 0, d)
  | fuel + 1, d =>
    let (n, d) := below size d
    if taken.contains n then freePlace size taken fuel d else (n, d)

/-- So many places that are not taken. -/
def placesFrom (size : Nat) : Nat → List Nat → Draws → List Nat × Draws
  | 0, _, d => ([], d)
  | count + 1, taken, d =>
    let (n, d) := freePlace size taken (d.numbers.length + 1) d
    let (rest, d) := placesFrom size count (n :: taken) d
    (n :: rest, d)

/-- So many different items, at random. Few of many are drawn with repetitions set aside, else without putting
them back. -/
def sample (count : Nat) (items : List α) (d : Draws) : List α × Draws :=
  if items.length ≤ poolLimit count then drawFrom count items d
  else
    let (places, d) := placesFrom items.length count [] d
    (places.filterMap fun n => items[n]?, d)

end Draws

namespace Encounter

/-- Those that a targeting describes. -/
def targets (o : Options) : Option Targeting → Deed (List Target)
  | none => Act.pure o.selected
  | some t => fun e =>
    match t.choice with
    | .all => (.ok e.seats, e)
    | .players => (.ok (e.seats.filter fun s => s.combatant.side = .player), e)
    | .monsters => (.ok (e.seats.filter fun s => s.combatant.side = .monster), e)
    | .allies => (.ok (o.side?.elim [] fun side => e.seats.filter fun s => s.combatant.side = side), e)
    | .enemies => (.ok (o.side?.elim [] fun side => e.seats.filter fun s => s.combatant.side ≠ side), e)
    | .self => (.ok o.source.toList, e)
    | .specific => (.ok (e.seats.filter fun s => t.ids.contains s.id), e)
    | .selected => (.ok o.selected, e)
    | .area => Act.bind (inArea t.area) (fun found => Act.pure (found.getD [])) e
    | .random =>
      let (found, draws) := e.draws.sample (min t.count e.roster.length) e.seats
      (.ok found, { e with draws := draws })

end Encounter

end Bestiary
