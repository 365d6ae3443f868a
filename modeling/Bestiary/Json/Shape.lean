import Bestiary.Json
import Bestiary.Text.Digit
/-!
# The shape of documents

How deep the brackets of a document nest, and what its leaves are: the values that are neither lists nor objects. Some
texts carry only whole texts, finite numbers or integers of so many digits.
-/
namespace Bestiary.Json

mutual

/-- How deep the brackets of a document nest. -/
def depth : Json → Nat
  | .arr items => depthOfItems items + 1
  | .obj entries => depthOfEntries entries + 1
  | _ => 0

def depthOfItems : List Json → Nat
  | [] => 0
  | item :: items => max (depth item) (depthOfItems items)

def depthOfEntries : List (String × Json) → Nat
  | [] => 0
  | (_, value) :: entries => max (depth value) (depthOfEntries entries)

end

mutual

/-- Whether every leaf passes. -/
def every (passes : Json → Bool) : Json → Bool
  | .arr items => everyItem passes items
  | .obj entries => everyEntry passes entries
  | leaf => passes leaf

def everyItem (passes : Json → Bool) : List Json → Bool
  | [] => true
  | item :: items => every passes item && everyItem passes items

def everyEntry (passes : Json → Bool) : List (String × Json) → Bool
  | [] => true
  | (_, value) :: entries => every passes value && everyEntry passes entries

end

/-- Whether all texts are texts of characters. -/
def whole : Json → Bool :=
  every fun
    | .torn _ => false
    | _ => true

/-- Whether all doubles are finite. -/
def finite : Json → Bool :=
  every fun
    | .float x => x.isFinite
    | _ => true

/-- Whether all integers have few enough digits to be written out. -/
def countable : Json → Bool :=
  every fun
    | .int n => (Nat.toDigits 10 n.natAbs).length ≤ Text.digitLimit
    | _ => true

mutual

/-- The document with null for each double that is not finite. -/
def nulled : Json → Json
  | .float x => if x.isFinite then .float x else .null
  | .arr items => .arr (nulledItems items)
  | .obj entries => .obj (nulledEntries entries)
  | leaf => leaf

def nulledItems : List Json → List Json
  | [] => []
  | item :: items => nulled item :: nulledItems items

def nulledEntries : List (String × Json) → List (String × Json)
  | [] => []
  | (key, value) :: entries => (key, nulled value) :: nulledEntries entries

end

end Bestiary.Json
