import Bestiary.Dice.Notation
/-!
# Selected members

A selector picks places among the members that are kept. Equal members are picked in their order.
-/
namespace Bestiary.Dice

/-- The kept members, by their places, with their amounts. -/
abbrev Kept := List (Nat × Amount)

namespace Selector

/-- The places a selector picks, in the order it picks them. -/
def places (s : Selector) (kept : Kept) : List Nat :=
  let n := Amount.whole s.number
  match s.pick with
  | .lowest => ((kept.mergeSort fun a b => !Amount.lt b.2 a.2).take s.number).map (·.1)
  | .highest => ((kept.mergeSort fun a b => !Amount.lt a.2 b.2).take s.number).map (·.1)
  | .below => (kept.filter fun m => Amount.lt m.2 n).map (·.1)
  | .above => (kept.filter fun m => Amount.lt n m.2).map (·.1)
  | .equal => (kept.filter fun m => Amount.same m.2 n).map (·.1)

/-- The places that any of the selectors picks. -/
def placesOf (selectors : List Selector) (kept : Kept) : List Nat := selectors.flatMap fun s => s.places kept

/-- The first place that a selector picks. -/
def firstPlace? (selectors : List Selector) (kept : Kept) : Option Nat := (placesOf selectors kept).head?

end Selector

namespace Kept

/-- The members that stay when each of these, in turn, is dropped unless the selectors pick it among those
that are left. -/
def sift (selectors : List Selector) : List Nat → Kept → Kept
  | [], kept => kept
  | place :: rest, kept =>
    if (Selector.placesOf selectors kept).contains place then sift selectors rest kept
    else sift selectors rest (kept.filter fun m => m.1 ≠ place)

/-- The members that stay when only selected ones are kept. -/
def keep (selectors : List Selector) (kept : Kept) : Kept := sift selectors (kept.map (·.1)) kept

/-- The members that stay when the selected ones are dropped. -/
def drop (selectors : List Selector) (kept : Kept) : Kept :=
  let gone := Selector.placesOf selectors kept
  kept.filter fun m => !gone.contains m.1

end Kept

end Bestiary.Dice
