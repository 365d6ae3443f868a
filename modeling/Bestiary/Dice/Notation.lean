import Bestiary.Dice.Amount
/-!
# Dice notation

A notation is an arithmetic expression over numbers, dice and sets. Dice and sets carry adjustments, which
drop, reroll, explode or bound the members that their selectors pick. Labels in brackets are not kept.
-/
namespace Bestiary.Dice

/-- The sides of a die: its number of faces, or the tens of a percentile die. -/
inductive Sides where
  /-- A die with this many faces, numbered from one. -/
  | faces (n : Nat)
  /-- A die that shows 0, 10, … 90. -/
  | percent
  deriving DecidableEq, Repr

/-- How a selector compares members with its number. -/
inductive Pick where
  /-- So many of the lowest members. -/
  | lowest
  /-- So many of the highest members. -/
  | highest
  | below
  | above
  /-- The members equal to the number. -/
  | equal
  deriving DecidableEq, Repr

/-- Picks some of the members that are kept. -/
structure Selector where
  pick : Pick
  /-- What they are compared with, or how many there are. -/
  number : Nat
  deriving DecidableEq, Repr

/-- What an adjustment does. -/
inductive Adjustment.Kind where
  /-- Drops every member that is not picked. -/
  | keep
  | drop
  /-- Rerolls the picked dice until none is picked. -/
  | reroll
  | rerollOnce
  /-- Rolls one more die for the first picked die. -/
  | explodeOnce
  /-- Rolls one more die for each picked die, new ones included. -/
  | explode
  | least
  | most
  deriving DecidableEq, Repr

/-- A kind of adjustment with its selectors. -/
structure Adjustment where
  kind : Adjustment.Kind
  /-- The members it is done to are those that any of these picks. -/
  selectors : List Selector
  deriving DecidableEq, Repr

inductive Notation where
  | number (value : Amount)
  /-- Dice of one kind, and what is done to them. -/
  | dice (count : Nat) (sides : Sides) (adjustments : List Adjustment)
  /-- A notation in parentheses, and what is done to its members. -/
  | group (inner : Notation) (adjustments : List Adjustment)
  /-- A set of notations, and what is done to them. -/
  | set (members : List Notation) (adjustments : List Adjustment)
  | signed (negative : Bool) (inner : Notation)
  /-- Two notations joined by an operation. -/
  | binary (left : Notation) (operation : Operation) (right : Notation)
  deriving Repr, Inhabited

namespace Pick

/-- The letter or sign of a pick. -/
def symbol : Pick → String
  | .lowest => "l"
  | .highest => "h"
  | .below => "<"
  | .above => ">"
  | .equal => ""

end Pick

/-- The text of a selector. -/
def Selector.text (s : Selector) : String := s.pick.symbol ++ toString s.number

namespace Adjustment

/-- Whether several adjustments of the kind in a row are one with all their selectors. Bounds are set one
after the other. -/
def Kind.merges : Kind → Bool
  | .least | .most => false
  | _ => true

/-- Makes one adjustment of those in a row that merge. -/
def merge : List Adjustment → List Adjustment
  | [] => []
  | a :: rest =>
    match merge rest with
    | b :: rest' =>
      if a.kind = b.kind ∧ a.kind.merges then ⟨a.kind, a.selectors ++ b.selectors⟩ :: rest' else a :: b :: rest'
    | [] => [a]

end Adjustment

end Bestiary.Dice
