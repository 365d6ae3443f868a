import Bestiary.Json
import Bestiary.Number.Shortest
import Bestiary.Text.Quoted
/-!
# Literals of documents

In messages a document is shown as a literal: quoted texts, `None`, `True` and `False`, and brackets
without line breaks. `display` shows a text as it is and anything else as its literal.
-/
namespace Bestiary.Json

mutual

/-- The literal of a document. -/
def literal : Json → String
  | .null => "None"
  | .bool b => if b then "True" else "False"
  | .int n => toString n
  | .float x => Number.Style.literal.text x
  | .str s => Text.quoted s
  | .torn points => Text.quotedPoints points
  | .arr items => "[" ++ ", ".intercalate (literals items) ++ "]"
  | .obj entries => "\x7b" ++ ", ".intercalate (entryLiterals entries) ++ "\x7d"

/-- The literals of the items of a list. -/
def literals : List Json → List String
  | [] => []
  | item :: items => literal item :: literals items

/-- The literals of the entries of an object. -/
def entryLiterals : List (String × Json) → List String
  | [] => []
  | (key, value) :: entries => (Text.quoted key ++ ": " ++ literal value) :: entryLiterals entries

end

/-- A text as it is, anything else as its literal. -/
def display : Json → String
  | .str s => s
  | .torn points => shown points
  | other => other.literal

end Bestiary.Json
