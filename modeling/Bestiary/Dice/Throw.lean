import Bestiary.Act
import Bestiary.Dice.Selection
/-!
# Thrown dice

Evaluating a notation throws its dice from left to right and answers the tree of what they show. Faces come
from a given cycle; a die with fewer sides shows them wrapped around. Adjustments are made where their dice
or set stands, so what they throw comes before the dice to the right. The arithmetic is done afterwards, in
`Rolled.total`, unless a selector has to compare the members of a set.
-/
namespace Bestiary.Dice

/-- The faces that come up in turn, over and over, and how many dice have been thrown. -/
structure Hand where
  /-- The faces; dice show their first one when there are none. -/
  faces : List Int
  /-- How many faces have come up. -/
  shown : Nat
  /-- How many dice were thrown for the notation at hand. -/
  thrown : Nat
  deriving DecidableEq, Repr

/-- Why dice cannot be thrown. -/
inductive Throw.Fault where
  | noSides
  /-- More dice than are thrown for one notation. -/
  | tooManyDice
  /-- A bound that is given by picking members. -/
  | badBound (selector : Selector) (least : Bool)
  | flaw (flaw : Amount.Flaw)
  deriving DecidableEq, Repr

/-- A die on the table. -/
structure Die where
  shown : Nat
  kept : Bool
  deriving DecidableEq, Repr

/-- What a notation came to. Each part may have been dropped; a dropped part counts nothing. -/
inductive Rolled where
  | number (kept : Bool) (value : Amount)
  | dice (kept : Bool) (dice : List Die)
  | group (kept : Bool) (inner : Rolled)
  | set (kept : Bool) (members : List Rolled)
  | signed (kept : Bool) (negative : Bool) (inner : Rolled)
  | binary (kept : Bool) (left : Rolled) (operation : Operation) (right : Rolled)
  deriving Repr, Inhabited

namespace Sides

/-- What a die shows when a face comes up. -/
def shown : Sides → Int → Nat
  | .faces n, face => ((face - 1) % n + 1).toNat
  | .percent, face => (10 * ((face - 1) % 10)).toNat

theorem one_le_shown (n : Nat) (hn : 0 < n) (face : Int) : 1 ≤ (Sides.faces n).shown face := by
  have := Int.emod_nonneg (face - 1) (b := n) (by omega)
  simp only [shown]
  omega

theorem shown_le (n : Nat) (hn : 0 < n) (face : Int) : (Sides.faces n).shown face ≤ n := by
  have := Int.emod_lt_of_pos (face - 1) (b := n) (by omega)
  simp only [shown]
  omega

end Sides

namespace Hand

/-- The face that comes up next. -/
def next (h : Hand) : Int := if h.faces = [] then 1 else h.faces[h.shown % h.faces.length]?.getD 1

/-- The greatest number of dice thrown for one notation. -/
def limit : Nat := 1000

def throwDie (sides : Sides) : Act Hand Throw.Fault Die := fun h =>
  if sides = .faces 0 then (.error .noSides, h)
  else if limit ≤ h.thrown then (.error .tooManyDice, h)
  else (.ok ⟨sides.shown h.next, true⟩, { h with shown := h.shown + 1, thrown := h.thrown + 1 })

/-- So many thrown dice. -/
def throwDice (sides : Sides) : Nat → Act Hand Throw.Fault (List Die)
  | 0 => pure []
  | n + 1 => do
    let die ← throwDie sides
    let dice ← throwDice sides n
    return die :: dice

end Hand

namespace Die

/-- The kept dice, by their places. -/
def keptPlaces (dice : List Die) : Kept :=
  dice.zipIdx.filterMap fun (die, place) => if die.kept then some (place, .whole die.shown) else none

/-- The dice, of which only those at these places are kept. -/
def keepOnly (kept : Kept) (dice : List Die) : List Die :=
  dice.zipIdx.map fun (die, place) => { die with kept := die.kept && kept.any (·.1 == place) }

/-- The dice, with those at these places thrown again. -/
def rethrow (sides : Sides) (places : List Nat) (dice : List Die) : Act Hand Throw.Fault (List Die) :=
  Act.each (fun (die, place) =>
    if places.contains place then do
      let again ← Hand.throwDie sides
      return { die with shown := again.shown }
    else pure die) dice.zipIdx

/-- Throws the selected dice again until none is selected. -/
def rethrowAll (sides : Sides) (selectors : List Selector) : Nat → List Die → Act Hand Throw.Fault (List Die)
  | 0, dice => pure dice
  | fuel + 1, dice =>
    match Selector.placesOf selectors (keptPlaces dice) with
    | [] => pure dice
    | places => do
      let dice ← rethrow sides places dice
      rethrowAll sides selectors fuel dice

/-- Adds one die for each selected die that has not exploded yet, and goes on with the new ones. -/
def explodeAll (sides : Sides) (selectors : List Selector) :
    Nat → List Nat → List Die → Act Hand Throw.Fault (List Die)
  | 0, _, dice => pure dice
  | fuel + 1, exploded, dice =>
    match ((Selector.placesOf selectors (keptPlaces dice)).filter fun place => !exploded.contains place).eraseDups with
    | [] => pure dice
    | places => do
      let further ← Hand.throwDice sides places.length
      explodeAll sides selectors fuel (exploded ++ places) (dice ++ further)

/-- The number that bounds dice: the last selector's, which may not pick members. -/
def bound (least : Bool) (selectors : List Selector) : Except Throw.Fault Nat :=
  match selectors.getLast? with
  | none => .ok 0
  | some s => if s.pick = .equal then .ok s.number else .error (.badBound s least)

/-- The dice with a change to those that are kept. -/
def mapKept (change : Nat → Nat) (dice : List Die) : List Die :=
  dice.map fun die => if die.kept then { die with shown := change die.shown } else die

/-- Makes an adjustment to dice. More than `Hand.limit` dice are never thrown, which bounds the rounds. -/
def adjust (sides : Sides) (a : Adjustment) (dice : List Die) : Act Hand Throw.Fault (List Die) :=
  match a.kind with
  | .keep => pure (keepOnly ((keptPlaces dice).keep a.selectors) dice)
  | .drop => pure (keepOnly ((keptPlaces dice).drop a.selectors) dice)
  | .reroll => rethrowAll sides a.selectors (Hand.limit + 1) dice
  | .rerollOnce => rethrow sides (Selector.placesOf a.selectors (keptPlaces dice)) dice
  | .explodeOnce =>
    match Selector.firstPlace? a.selectors (keptPlaces dice) with
    | none => pure dice
    | some _ => do
      let further ← Hand.throwDie sides
      return dice ++ [further]
  | .explode => explodeAll sides a.selectors (Hand.limit + 1) [] dice
  | .least => do
    let n ← Act.ofExcept (bound true a.selectors)
    return mapKept (max n) dice
  | .most => do
    let n ← Act.ofExcept (bound false a.selectors)
    return mapKept (min n) dice

/-- Makes the adjustments in order. -/
def adjustAll (sides : Sides) : List Adjustment → List Die → Act Hand Throw.Fault (List Die)
  | [], dice => pure dice
  | a :: rest, dice => do
    let dice ← adjust sides a dice
    adjustAll sides rest dice

/-- The sum of the kept dice. -/
def sum (dice : List Die) : Nat := ((dice.filter (·.kept)).map (·.shown)).foldr (· + ·) 0

end Die

namespace Rolled

/-- Whether the part counts. -/
def kept : Rolled → Bool
  | .number kept _ | .dice kept _ | .group kept _ | .set kept _ | .signed kept _ _ | .binary kept _ _ _ => kept

/-- The part, counting or not. -/
def setKept (kept : Bool) : Rolled → Rolled
  | .number _ value => .number kept value
  | .dice _ held => .dice kept held
  | .group _ inner => .group kept inner
  | .set _ members => .set kept members
  | .signed _ negative inner => .signed kept negative inner
  | .binary _ left operation right => .binary kept left operation right

mutual

/-- What the part counts. -/
def total : Rolled → Except Amount.Flaw Amount
  | .number kept value => if kept then .ok value else .ok .zero
  | .dice kept held => if kept then .ok (.whole (Die.sum held)) else .ok .zero
  | .group kept inner => if kept then total inner else .ok .zero
  | .set kept members => if kept then sumFrom .zero members else .ok .zero
  | .signed kept negative inner =>
    if kept then do
      let a ← total inner
      return if negative then a.neg else a
    else .ok .zero
  | .binary kept left operation right =>
    if kept then do
      let a ← total left
      let b ← total right
      Amount.join operation a b
    else .ok .zero

/-- An amount and what the kept members count, summed from the left. -/
def sumFrom (a : Amount) : List Rolled → Except Amount.Flaw Amount
  | [] => .ok a
  | member :: members =>
    if member.kept then do
      let b ← total member
      let a ← Amount.join .add a b
      sumFrom a members
    else sumFrom a members

end

/-- The members that selectors pick from: those of a set, dice, or of what stands in parentheses; any other
part is its own single member. -/
def members : Rolled → List (Bool × Except Amount.Flaw Amount)
  | .dice _ held => held.map fun die => (die.kept, .ok (.whole die.shown))
  | .set _ members => members.map fun m => (m.kept, m.total)
  | .group _ inner => members inner
  | other => [(other.kept, other.total)]

/-- The kept members, by their places, unless what one of them counts cannot be had. -/
def keptMembers (r : Rolled) : Except Amount.Flaw Kept :=
  (r.members.zipIdx.filter fun m => m.1.1).mapM fun m => do
    let a ← m.1.2
    return (m.2, a)

/-- The part, of whose members only those at these places are kept. -/
def keepOnly (kept : Kept) : Rolled → Rolled
  | .dice k held => .dice k (Die.keepOnly kept held)
  | .set k members =>
    .set k (members.zipIdx.map fun (m, place) => m.setKept (m.kept && kept.any (·.1 == place)))
  | .group k inner => .group k (keepOnly kept inner)
  | other => other.setKept (other.kept && kept.any (·.1 == 0))

/-- Makes an adjustment to the members of a set or of what stands in parentheses. -/
def adjust (a : Adjustment) (r : Rolled) : Except Amount.Flaw Rolled := do
  let kept ← r.keptMembers
  match a.kind with
  | .keep => return keepOnly (kept.keep a.selectors) r
  | .drop => return keepOnly (kept.drop a.selectors) r
  | _ => return r

def adjustAll : List Adjustment → Rolled → Except Amount.Flaw Rolled
  | [], r => .ok r
  | a :: rest, r => do
    let r ← adjust a r
    adjustAll rest r

mutual

/-- The numbers on the kept dice, from left to right, also where dropped members of a set hold them. -/
def keptDice : Rolled → List Nat
  | .number _ _ => []
  | .dice _ held => (held.filter (·.kept)).map (·.shown)
  | .group _ inner => keptDice inner
  | .set _ members => keptDiceOf members
  | .signed _ _ inner => keptDice inner
  | .binary _ left _ right => keptDice left ++ keptDice right

/-- The numbers on the kept dice of the members. -/
def keptDiceOf : List Rolled → List Nat
  | [] => []
  | member :: members => keptDice member ++ keptDiceOf members

end

end Rolled

namespace Notation

mutual

/-- Throws the dice of a notation. -/
def thrown : Notation → Act Hand Throw.Fault Rolled
  | .number value => pure (.number true value)
  | .dice count sides adjustments => do
    let dice ← Hand.throwDice sides count
    let dice ← Die.adjustAll sides adjustments dice
    return .dice true dice
  | .group inner adjustments => do
    let r ← thrown inner
    Act.ofExcept ((Rolled.adjustAll adjustments (.group true r)).mapError Throw.Fault.flaw)
  | .set members adjustments => do
    let rs ← thrownEach members
    Act.ofExcept ((Rolled.adjustAll adjustments (.set true rs)).mapError Throw.Fault.flaw)
  | .signed negative inner => do
    let r ← thrown inner
    return .signed true negative r
  | .binary left operation right => do
    let a ← thrown left
    let b ← thrown right
    return .binary true a operation b

/-- Throws the dice of each notation in order. -/
def thrownEach : List Notation → Act Hand Throw.Fault (List Rolled)
  | [] => pure []
  | member :: members => do
    let r ← thrown member
    let rs ← thrownEach members
    return r :: rs

end

end Notation

end Bestiary.Dice
