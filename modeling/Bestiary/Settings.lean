import Bestiary.Encounter
import Bestiary.Fault
import Bestiary.Json.Parser
/-!
# Settings

Settings come from the variables of an environment, whose names are compared without regard to case. Two
sections, for the rules and for the catalogue, have variables of their own. A section may be given as a whole
too: by a document in one variable, and by variables that name its fields after two underscores. What is given
so goes before the section's own variables, and what is wrong with it is wrong with the settings; otherwise a
section stands alone and its faults come first.
-/
namespace Bestiary

/-- Variables with their values, in the order in which they were set. -/
abbrev Environment := List (String × String)

/-- A text that is not blank. -/
structure Version where
  text : String
  /-- It has a character that is not blank. -/
  filled : Text.isBlankText text = false
  deriving DecidableEq, Repr

/-- How the rules are played. -/
structure RulesSettings where
  /-- How advantage and disadvantage at once are rolled. -/
  rule : AdvantageRule
  /-- What the dice are seeded with. -/
  seed : Option Int
  deriving DecidableEq, Repr

/-- How catalogues are set up and exported. -/
structure CatalogueSettings where
  version : Version
  /-- Whether a catalogue starts with the templates that come with the library. -/
  defaults : Bool
  deriving DecidableEq, Repr

structure Settings where
  name : String
  debug : Bool
  /-- From which level on the log shows anything. -/
  level : Level
  /-- Whether the log consists of documents. -/
  documents : Bool
  /-- The file that repeats the log of other programs. -/
  file : Option String
  rules : RulesSettings
  catalogue : CatalogueSettings
  deriving DecidableEq, Repr

namespace Settings

/-- The parts that can be wrong on their own. -/
inductive Part where
  | rules
  | catalogue
  | all
  deriving DecidableEq, Repr

/-- The name of a part. -/
def Part.name : Part → String
  | .rules => "EngineSettings"
  | .catalogue => "LibrarySettings"
  | .all => "Settings"

/-- Why there are no settings. -/
inductive Failure where
  /-- The document given for a section cannot be read. -/
  | unreadable (part : String)
  /-- The brackets of the document given for a section nest too deep. -/
  | tooDeep (list : Bool)
  /-- So many values of a part are not accepted. -/
  | wrong (part : Part) (count : Nat)
  /-- The version of exports is blank. -/
  | blankVersion
  deriving DecidableEq, Repr

/-- The wording of a failure. -/
def Failure.message : Failure → String
  | .unreadable part => "error parsing value for field \"" ++ part ++ "\" from source \"EnvSettingsSource\""
  | .tooDeep list => (Json.Fault.Cause.tooDeep list).message
  | .wrong part count =>
    toString count ++ (if count = 1 then " validation error for " else " validation errors for ") ++ part.name
  | .blankVersion =>
    (Fault.make .configuration "export_version must not be empty" [("config_key", .str "export_version")] []).text

/-- The fault of a failure. -/
def Failure.fault (f : Failure) : Fault :=
  .make .configuration ("Failed to load application settings: " ++ f.message) []
    [("original_error", .str f.message)]

/-- What every variable of the settings starts with, in lower case. -/
def start : String := "special_actions_"

/-- The variables by their names in lower case; of one name the latest value counts. -/
def byName (env : Environment) : Entries :=
  env.foldl (fun entries v => entries.put (Text.lower v.1) (.str v.2)) []

/-- What follows the beginning of a name. -/
def after? (beginning name : String) : Option String :=
  if beginning.toList.isPrefixOf name.toList then some (String.ofList (name.toList.drop beginning.length)) else none

/-- The characters before the first two underscores in a row, and those after them, if there are any. -/
def cut : List Char → List Char × Option (List Char)
  | '_' :: '_' :: rest => ([], some rest)
  | c :: rest =>
    let (head, tail) := cut rest
    (c :: head, tail)
  | [] => ([], none)

/-- The variables that name fields after a beginning. -/
def named (vars : Entries) (beginning : String) : Entries :=
  vars.filterMap fun entry => (after? beginning entry.1).map fun field => (field, entry.2)

/-- The fields of a section that have variables of their own names after two underscores. What is said about
parts of a field leaves no value for the field itself, unless it has one. -/
def spelled (vars : Entries) (field : String) : Entries :=
  (named vars (start ++ field ++ "__")).foldl (fun entries entry =>
    match cut entry.1.toList with
    | (name, none) => entries.put (String.ofList name) entry.2
    | (name, some _) =>
      if (entries.lookup (String.ofList name)).isSome then entries
      else entries.put (String.ofList name) (.obj [])) []

/-- What is given for a section as a whole, if anything is. -/
def whole? (vars : Entries) (field : String) : Except Failure (Option Json) :=
  let fields := spelled vars field
  match vars.lookup (start ++ field) with
  | some (.str text) =>
    match Json.parse Json.usualReach text with
    | .error ⟨.tooDeep list, _⟩ => .error (.tooDeep list)
    | .error _ => .error (.unreadable field)
    | .ok .null => .ok none
    | .ok (.obj entries) => .ok (some (.obj (Entries.overlay entries fields)))
    | .ok other => .ok (some other)
  | _ => .ok (if fields.isEmpty then none else some (.obj fields))

/-- The entries with their keys in lower case, and those that come later over those before them. -/
def lowered (entries : Entries) : Entries :=
  entries.foldl (fun all entry => all.put (Text.lower entry.1) entry.2) []

/-- The value of a field, or the number of those that are wrong. -/
def value {α : Type} (fields : Entries) (key : String) (absent : α) (read : Json → Except Issue.Cause α) :
    Except Nat α :=
  match fields.lookup key with
  | none => .ok absent
  | some j =>
    match read j with
    | .ok a => .ok a
    | .error _ => .error 1

/-- Both values, or how many are wrong. -/
def both {α β : Type} : Except Nat α → Except Nat β → Except Nat (α × β)
  | .ok a, .ok b => .ok (a, b)
  | .error m, .error n => .error (m + n)
  | .error m, .ok _ => .error m
  | .ok _, .error n => .error n

def textOf : Json → Except Issue.Cause String
  | .str s => .ok s
  | .torn points => .ok (Json.shown points)
  | _ => .error .stringType

/-- A level by its word. -/
def levelOf : Json → Except Issue.Cause Level
  | .str s =>
    match Level.ofWord? s with
    | some l => .ok l
    | none => .error (.enum (Tag.all.map Level.word))
  | _ => .error (.enum (Tag.all.map Level.word))

/-- Null or a value. -/
def nullableOf {α : Type} (read : Json → Except Issue.Cause α) : Json → Except Issue.Cause (Option α)
  | .null => .ok none
  | j => some <$> read j

/-- Reads the section for the rules. -/
def readRules (fields : Entries) : Except Nat RulesSettings :=
  (fun (rule, seed) => ⟨rule, seed⟩) <$>
    both (value fields "advantage_rule" .cancel Intake.tagOf)
      (value fields "dice_seed" none (nullableOf Intake.intOf))

/-- The version written into exports if nothing is said about it. -/
def usualVersion : Version := ⟨"1.0.0", by decide⟩

/-- Reads the section for the catalogue: nothing if the version is blank, which goes before other faults. -/
def readCatalogue (fields : Entries) : Option (Except Nat CatalogueSettings) :=
  let defaults := value fields "load_default_templates" true Intake.boolOf
  match value fields "export_version" usualVersion.text textOf with
  | .error n => some ((fun (_, d) => ⟨usualVersion, d⟩) <$> both (.error n : Except Nat Unit) defaults)
  | .ok s =>
    if h : Text.isBlankText s = false then some ((fun d => ⟨⟨s, h⟩, d⟩) <$> defaults) else none

/-- A section by itself. -/
def alone {α : Type} (part : Part) : Except Nat α → Except Failure (Except Nat α)
  | .ok a => .ok (.ok a)
  | .error n => .error (.wrong part n)

/-- The section for the rules; what is wrong with it counts as wrong with the settings if it is given as a
whole. -/
def rulesOf (vars : Entries) (given : Option Json) : Except Failure (Except Nat RulesSettings) :=
  let own := named vars (start ++ "engine_")
  match given with
  | none => alone .rules (readRules own)
  | some (.obj entries) => .ok (readRules (own.overlay (lowered entries)))
  | some _ => .ok (.error 1)

/-- The section for the catalogue; what is wrong with it counts as wrong with the settings if it is given as a
whole. -/
def catalogueOf (vars : Entries) (given : Option Json) : Except Failure (Except Nat CatalogueSettings) :=
  let own := named vars (start ++ "library_")
  match given with
  | none =>
    match readCatalogue own with
    | some c => alone .catalogue c
    | none => .error .blankVersion
  | some (.obj entries) =>
    match readCatalogue (own.overlay (lowered entries)) with
    | some c => .ok c
    | none => .error .blankVersion
  | some _ => .ok (.error 1)

/-- The settings of an environment. -/
def load (env : Environment) : Except Failure Settings := do
  let vars := byName env
  let own := named vars start
  let givenRules ← whole? vars "engine"
  let givenCatalogue ← whole? vars "library"
  let rules ← rulesOf vars givenRules
  let catalogue ← catalogueOf vars givenCatalogue
  let all := both (value own "app_name" "Special Actions Engine" textOf)
    (both (value own "debug" false Intake.boolOf)
      (both (value own "log_level" Level.info levelOf)
        (both (value own "json_logs" false Intake.boolOf)
          (both (value own "log_file" none (nullableOf textOf)) (both rules catalogue)))))
  match all with
  | .ok (name, debug, level, documents, file, rules, catalogue) =>
    .ok ⟨name, debug, level, documents, file, rules, catalogue⟩
  | .error n => .error (.wrong .all n)

/-- The document of settings. -/
def toJson (s : Settings) : Json :=
  .obj [("app_name", .str s.name), ("debug", .bool s.debug), ("log_level", .str s.level.word),
    ("json_logs", .bool s.documents), ("log_file", Json.ofText? s.file),
    ("engine", .obj [("advantage_rule", .str s.rules.rule.name), ("dice_seed", Json.ofInt? s.rules.seed)]),
    ("library", .obj [("export_version", .str s.catalogue.version.text),
      ("load_default_templates", .bool s.catalogue.defaults)])]

end Settings

end Bestiary
