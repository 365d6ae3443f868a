import Bestiary.Catalogue
import Bestiary.Fault
import Bestiary.Json.Parser
/-!
# Importing

An export is imported entry by entry: first its categories, then its templates, each over the one with its id.
A template that is not valid is skipped. A category that has an id and a name is not skipped: if it is not
valid the import ends there. A text whose brackets nest deeper than the reach is not read at all.
-/
namespace Bestiary.Catalogue

/-- A template that was skipped: its id as it was given, and how many issues it has. -/
structure Skipped where
  /-- The id as it was given. -/
  id : Json
  issues : Nat
  deriving DecidableEq, Repr

/-- What came of an import. -/
inductive Import where
  | unreadable (reason : String)
  /-- The brackets of the text nest too deep. -/
  | exhausted (reason : String)
  /-- A category is not valid. -/
  | broken (issues : List Issue)
  /-- So many templates were added, and these were skipped. -/
  | done (added : Nat) (skipped : List Skipped)
  deriving DecidableEq, Repr

/-- The wording of the refusal of a template. -/
def refusal (issues : Nat) : String := "Invalid template: " ++ toString issues ++ " error(s)"

/-- What is reported about an import. -/
def Import.notices : Import → List Notice
  | .unreadable reason => [.importFailed reason]
  | .exhausted _ | .broken _ => []
  | .done added skipped => skipped.map (fun x => .templateSkipped x.id (refusal x.issues)) ++ [.templatesImported added]

/-- What comes of an import of a text that is no document. -/
def refused (text : String) (fault : Json.Fault) : Import :=
  match fault.cause with
  | .tooDeep _ => .exhausted (fault.message text)
  | _ => .unreadable ("Invalid JSON: " ++ fault.message text)

/-- The categories and templates of an export as they were given. Categories that are no list are none. -/
def split (reach : Nat) (text : String) : Except Import (List Json × List Json) :=
  match Json.parse reach text with
  | .error fault => .error (refused text fault)
  | .ok j =>
    match j.get? "templates" with
    | some (.arr templates) =>
      .ok (match j.get? "categories" with
        | some (.arr categories) => (categories, templates)
        | _ => ([], templates))
    | _ => .error (.unreadable "Invalid template data: templates array missing")

/-- The document of a category that is to be added: an object whose id and name say something. -/
def candidate? (j : Json) : Option Json :=
  match j.get? "id", j.get? "name" with
  | some id, some name => if id.isTruthy && name.isTruthy then some (.obj [("id", id), ("name", name)]) else none
  | _, _ => none

/-- Adds categories until one is not valid. -/
def importCategories : List Json → Catalogue → Supply → Except (List Issue) Unit × Catalogue × Supply
  | [], c, s => (.ok (), c, s)
  | j :: rest, c, s =>
    match candidate? j with
    | none => importCategories rest c s
    | some document =>
      match (Category.read document).run s with
      | (.ok x, s) => importCategories rest (c.addCategory x) s
      | (.error issues, s) => (.error issues, c, s)

/-- Adds the templates that are valid. -/
def importTemplates : List Json → Catalogue → Supply → (Nat × List Skipped) × Catalogue × Supply
  | [], c, s => ((0, []), c, s)
  | j :: rest, c, s =>
    match (Template.read j).run s with
    | (.ok t, s) =>
      let ((added, skipped), c, s) := importTemplates rest (c.addTemplate t) s
      ((added + 1, skipped), c, s)
    | (.error issues, s) =>
      let ((added, skipped), c, s) := importTemplates rest c s
      ((added, ⟨(j.get? "id").getD .null, issues.length⟩ :: skipped), c, s)

/-- Imports the text of an export. -/
def importText (reach : Nat) (text : String) (c : Catalogue) (s : Supply) : Import × Catalogue × Supply :=
  match split reach text with
  | .error failure => (failure, c, s)
  | .ok (categories, templates) =>
    match importCategories categories c s with
    | (.error issues, c, s) => (.broken issues, c, s)
    | (.ok (), c, s) =>
      let ((added, skipped), c, s) := importTemplates templates c s
      (.done added skipped, c, s)

end Bestiary.Catalogue
