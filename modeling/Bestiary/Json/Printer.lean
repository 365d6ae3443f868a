import Bestiary.Json
import Bestiary.Number.Shortest
import Bestiary.Text.Quoted
/-!
# Written documents

A document is written on one line, or with every item and entry on a line of its own, two spaces deeper
than the bracket that holds it. A `Layout` fixes this, the text of doubles, and whether characters
outside ASCII are escaped.
-/
namespace Bestiary.Json

open Number (Double Style)

/-- How a document is written. -/
structure Layout where
  /-- Whether each item and entry stands on its own line. -/
  spread : Bool
  /-- Whether characters outside ASCII are escaped. -/
  asciiOnly : Bool
  style : Style

namespace Layout

/-- One line, in ASCII. -/
def line : Layout := ⟨false, true, .document⟩

/-- Spread over lines, for readers. -/
def exported : Layout := ⟨true, false, .exported⟩

/-- The code unit of a character as an escape. -/
def unitEscape (unit : Nat) : List Char := '\\' :: 'u' :: Text.hexDigits 4 unit

/-- A character as it stands in a written text. -/
def escape (layout : Layout) (c : Char) : List Char :=
  if c = '"' ∨ c = '\\' then ['\\', c]
  else if c = '\n' then ['\\', 'n']
  else if c = '\r' then ['\\', 'r']
  else if c = '\t' then ['\\', 't']
  else if c.toNat = 8 then ['\\', 'b']
  else if c.toNat = 12 then ['\\', 'f']
  else if c.toNat < 32 then unitEscape c.toNat
  else if layout.asciiOnly && 127 ≤ c.toNat then
    if c.toNat < 65536 then unitEscape c.toNat
    else unitEscape (0xd800 + (c.toNat - 65536) / 1024) ++ unitEscape (0xdc00 + (c.toNat - 65536) % 1024)
  else [c]

def text (layout : Layout) (s : String) : List Char :=
  '"' :: s.toList.flatMap layout.escape ++ ['"']

/-- A text that is given by its code points. Half of a surrogate pair is escaped. -/
def points (layout : Layout) (points : List Nat) : List Char :=
  '"' :: points.flatMap (fun n => if n.isValidChar then layout.escape (Char.ofNat n) else unitEscape n) ++ ['"']

/-- The line break before an item that stands so deep, if items stand on lines of their own. -/
def lineBreak (layout : Layout) (depth : Nat) : List Char :=
  if layout.spread then '\n' :: List.replicate (2 * depth) ' ' else []

/-- What separates two items that stand so deep. -/
def separator (layout : Layout) (depth : Nat) : List Char :=
  if layout.spread then ',' :: layout.lineBreak depth else [',', ' ']

mutual

/-- The characters of a document whose brackets stand so deep. -/
def write (layout : Layout) (depth : Nat) : Json → List Char
  | .null => "null".toList
  | .bool b => if b then "true".toList else "false".toList
  | .int n => (toString n).toList
  | .float x => (layout.style.text x).toList
  | .str s => layout.text s
  | .torn points => layout.points points
  | .arr [] => ['[', ']']
  | .arr (item :: items) =>
    '[' :: layout.lineBreak (depth + 1) ++ write layout (depth + 1) item ++ writeItems layout (depth + 1) items ++
      layout.lineBreak depth ++ [']']
  | .obj [] => ['\x7b', '\x7d']
  | .obj ((key, value) :: entries) =>
    '\x7b' :: layout.lineBreak (depth + 1) ++ layout.text key ++ [':', ' '] ++ write layout (depth + 1) value ++
      writeEntries layout (depth + 1) entries ++ layout.lineBreak depth ++ ['\x7d']

/-- The further items of a list. -/
def writeItems (layout : Layout) (depth : Nat) : List Json → List Char
  | [] => []
  | item :: items => layout.separator depth ++ write layout depth item ++ writeItems layout depth items

/-- The further entries of an object. -/
def writeEntries (layout : Layout) (depth : Nat) : List (String × Json) → List Char
  | [] => []
  | (key, value) :: entries =>
    layout.separator depth ++ layout.text key ++ [':', ' '] ++ write layout depth value ++
      writeEntries layout depth entries

end

end Layout

/-- The text of a document. -/
def render (layout : Layout) (j : Json) : String := String.ofList (layout.write 0 j)

end Bestiary.Json
