import Bestiary.Notice
import Bestiary.Json
/-!
# Listeners

Listeners register with a stage, one for each creature, and are called in the order in which they registered.
A listener may register more than once. Whoever adds a listener gets a remover, which takes the first
registration of that listener back and does nothing when there is none. A listener that fails is reported, and
the others are called all the same; what listeners add or remove while they are called counts for the next
event only. What a called listener does is not for the audience to say: it is told with each event.
-/
namespace Bestiary

structure Listener where
  /-- Its number, which tells it from all others. -/
  number : Nat
  deriving DecidableEq, Repr

/-- A listener at a stage. -/
structure Registration where
  stage : Nat
  listener : Listener
  deriving DecidableEq, Repr

/-- A recorded call: the number of the listener, the event and what was told about it. -/
structure Call where
  listener : Nat
  event : String
  data : Json
  deriving DecidableEq, Repr

/-- The listeners of all stages, in the order of their registrations, and the removers that were handed out. -/
structure Audience where
  registrations : List Registration
  /-- What each remover takes back; a remover of what could not be registered takes nothing back. -/
  removers : List (Option Registration)
  deriving DecidableEq, Repr

namespace Audience

def empty : Audience := ⟨[], []⟩

/-- The listeners at a stage. -/
def at? (a : Audience) (stage : Nat) : List Listener :=
  (a.registrations.filter fun r => r.stage = stage).map (·.listener)

/-- The audience with one more registration and its remover. -/
def register (r : Registration) (a : Audience) : Audience :=
  ⟨a.registrations ++ [r], a.removers ++ [some r]⟩

/-- The audience with a new listener. -/
def add (stage : Nat) (a : Audience) : Audience := a.register ⟨stage, ⟨a.removers.length⟩⟩

/-- The audience after something that is no listener was refused. -/
def refuse (a : Audience) : Audience := { a with removers := a.removers ++ [none] }

/-- The audience without the first registration that a remover takes back. -/
def take (r : Option Registration) (a : Audience) : Audience :=
  match r with
  | some r => { a with registrations := a.registrations.erase r }
  | none => a

/-- The audience after a remover was called. -/
def remove (n : Nat) (a : Audience) : Audience := a.take ((a.removers[n]?).join)

/-- The audience without the listeners at a stage. -/
def clear (stage : Nat) (a : Audience) : Audience :=
  { a with registrations := a.registrations.filter fun r => r.stage ≠ stage }

inductive Move where
  | register (r : Registration)
  | refuse
  /-- The remover of this number is called. -/
  | remove (n : Nat)
  deriving DecidableEq, Repr

def Move.on (a : Audience) : Move → Audience
  | register r => a.register r
  | refuse => a.refuse
  | remove n => a.remove n

def moved (ms : List Move) (a : Audience) : Audience := ms.foldl Move.on a

/-- What a called listener does. -/
structure Reaction where
  moves : List Move
  /-- What it fails with, if it fails. -/
  failure : Option String
  deriving DecidableEq, Repr

/-- What is reported of a called listener. -/
def Reaction.notices (event : String) (r : Reaction) : List Notice :=
  r.failure.toList.map fun reason => .listenerFailed event ("Listener raised: " ++ reason)

/-- What listeners do when they are called for an event: the first one that is called, the second and so on, each
with the audience as it is by then. -/
abbrev Conduct := Nat → Listener → Audience → Reaction

/-- Calls listeners one after the other, the first of them after so many others. -/
def callEach (conduct : Conduct) (event : String) (data : Json) :
    Nat → List Listener → Audience → Audience × List Call × List Notice
  | _, [], a => (a, [], [])
  | n, l :: ls, a =>
    let reaction := conduct n l a
    let (a, calls, further) := callEach conduct event data (n + 1) ls (moved reaction.moves a)
    (a, ⟨l.number, event, data⟩ :: calls, reaction.notices event ++ further)

/-- Tells an event to the listeners at a stage. -/
def notify (conduct : Conduct) (stage : Nat) (event : String) (data : Json) (a : Audience) :
    Audience × List Call × List Notice :=
  callEach conduct event data 0 (a.at? stage) a

end Audience

end Bestiary
