import Bestiary.Creature
import Bestiary.Json.Printer
import Bestiary.Notice
import Bestiary.Register
import Bestiary.Template
/-!
# Catalogues

A catalogue keeps templates and the categories they are filed under, both in the order in which their ids
first came. Creatures are made from templates: the fields that a creature takes over are written out, changed
as wanted and read as a creature, so nothing of a template is shared with what is made from it.
-/
namespace Bestiary

structure Catalogue where
  categories : Register Category fun c => c.id.text
  templates : Register Template fun t => t.id.text

namespace Catalogue

def empty : Catalogue := ⟨.empty, .empty⟩

/-- The catalogue with a category added, or another name for it. -/
def addCategory (x : Category) (c : Catalogue) : Catalogue := { c with categories := c.categories.put x }

/-- The catalogue with a template added, or put in the place of the one with its id. -/
def addTemplate (t : Template) (c : Catalogue) : Catalogue := { c with templates := c.templates.put t }

/-- The catalogue without the template with this id. -/
def removeTemplate (id : String) (c : Catalogue) : Catalogue := { c with templates := c.templates.erase id }

/-- The template with this id. -/
def template? (c : Catalogue) (id : String) : Option Template := c.templates.get? id

/-- The templates of a category. -/
def inCategory (c : Catalogue) (category : String) : List Template :=
  c.templates.items.filter fun t => t.category == category

/-- Whether the characters occur in a row. -/
def occurs (wanted : List Char) : List Char → Bool
  | [] => wanted.isEmpty
  | c :: rest => wanted.isPrefixOf (c :: rest) || occurs wanted rest

/-- Whether a text occurs in another one, without regard to case. -/
def mentions (wanted text : String) : Bool := occurs (Text.lower wanted).toList (Text.lower text).toList

/-- The templates whose name or description mentions a text. No template mentions the empty text. -/
def search (c : Catalogue) (wanted : String) : List Template :=
  if wanted = "" then []
  else c.templates.items.filter fun t => mentions wanted t.name.text || mentions wanted t.description

/-- The categories and some templates, or all of them, as an export. -/
def exported (c : Catalogue) (ids : Option (List String)) (version : String) (date : Moment) : Export where
  categories := c.categories.items
  templates := (ids.map fun ids => ids.filterMap c.template?).getD c.templates.items
  version := version
  date := date

/-- The text of an export, or why there is none. -/
def exportText (dumper : Dumper) (c : Catalogue) (ids : Option (List String)) (version : String) (date : Moment) :
    Except String String :=
  (dumper.dump ((c.exported ids version date).write .wire)).map (Json.render .exported)

/-- What came of making a creature from a template. -/
inductive Creation where
  | missing
  /-- What was written out is no creature. -/
  | invalid (issues : List Issue)
  | made (creature : Creature)

/-- What is reported about a creature made from the template with this id. -/
def Creation.notices (id : String) : Creation → List Notice
  | .missing => [.templateMissing id]
  | .invalid _ => []
  | .made creature => [.creatureMade id creature.name.text]

/-- The document of a creature made from a template, with changes. -/
def creatureDocument (t : Template) (changes : Entries) : Json :=
  .obj (Entries.overlay
    (Form.plain.field Field.name (.str t.name.text) :: Entries.dropNulls (t.creatureFields .plain)) changes)

/-- Makes a creature from the template with this id, with changes. -/
def create (c : Catalogue) (id : String) (changes : Entries) (s : Supply) : Creation × Supply :=
  match c.template? id with
  | none => (.missing, s)
  | some t =>
    match (Creature.read (creatureDocument t changes)).run s with
    | (.ok creature, s) => (.made creature, s)
    | (.error issues, s) => (.invalid issues, s)

end Catalogue

end Bestiary
