import Bestiary.Issue
/-!
# Faults

A fault is of a kind, tells what went wrong and carries details. Kinds form a tree; whoever handles a kind
handles those below it. Each kind has details of its own, which are kept when they say something.
-/
namespace Bestiary

namespace Json

/-- Whether a document says something: it is not null, false, zero or empty. -/
def isTruthy : Json → Bool
  | .null => false
  | .bool b => b
  | .int n => n ≠ 0
  | .float x => x.bits.toNat % Nat.pow 2 63 ≠ 0
  | .str s => s ≠ ""
  | .torn points => !points.isEmpty
  | .arr items => !items.isEmpty
  | .obj entries => !entries.isEmpty

end Json

/-- The kinds of faults. -/
inductive Fault.Kind where
  | general
  /-- A fault in applying the rules. -/
  | rules
  | actionNotFound
  /-- The action cannot be used now. -/
  | actionUnavailable
  | effect
  | dice
  | listener
  | template
  | templateNotFound
  | templateImport
  | configuration
  | validation
  deriving DecidableEq, Repr

namespace Fault.Kind

def all : List Fault.Kind :=
  [.general, .rules, .actionNotFound, .actionUnavailable, .effect, .dice, .listener, .template, .templateNotFound,
    .templateImport, .configuration, .validation]

/-- The name of a kind. -/
def name : Fault.Kind → String
  | .general => "SpecialActionsError"
  | .rules => "GameEngineError"
  | .actionNotFound => "ActionNotFoundError"
  | .actionUnavailable => "ActionUnavailableError"
  | .effect => "EffectApplicationError"
  | .dice => "DiceRollError"
  | .listener => "ListenerError"
  | .template => "TemplateError"
  | .templateNotFound => "TemplateNotFoundError"
  | .templateImport => "TemplateImportError"
  | .configuration => "ConfigurationError"
  | .validation => "ValidationError"

/-- The kind with this name. -/
def ofName? (s : String) : Option Fault.Kind := all.find? fun k => k.name == s

/-- The kind and those above it, nearest first. -/
def ancestry : Fault.Kind → List Fault.Kind
  | .general => [.general]
  | .rules => [.rules, .general]
  | .actionNotFound => [.actionNotFound, .rules, .general]
  | .actionUnavailable => [.actionUnavailable, .rules, .general]
  | .effect => [.effect, .rules, .general]
  | .dice => [.dice, .rules, .general]
  | .listener => [.listener, .general]
  | .template => [.template, .general]
  | .templateNotFound => [.templateNotFound, .template, .general]
  | .templateImport => [.templateImport, .template, .general]
  | .configuration => [.configuration, .general]
  | .validation => [.validation, .general]

/-- The details that a kind has of its own. -/
def ownDetails : Fault.Kind → List String
  | .actionNotFound => ["action_id", "creature_id"]
  | .actionUnavailable => ["action_id", "action_type"]
  | .effect => ["effect_type", "target_id"]
  | .dice => ["expression"]
  | .listener => ["event"]
  | .templateNotFound => ["template_id"]
  | .configuration => ["config_key"]
  | .validation => ["field_name", "invalid_value"]
  | _ => []

/-- Whether a detail of a kind's own is kept. A refused value is kept unless it is null, any other detail if it
says something. -/
def keeps (detail : String) (value : Json) : Bool :=
  if detail = "invalid_value" then value ≠ .null else value.isTruthy

end Fault.Kind

structure Fault where
  kind : Fault.Kind
  message : String
  details : Entries
  deriving DecidableEq, Repr

namespace Fault

/-- The fault of a kind with given details, over which the kind's own ones are laid. -/
def make (kind : Kind) (message : String) (own : Entries) (details : Entries) : Fault :=
  ⟨kind, message, details.overlay (kind.ownDetails.filterMap fun d =>
    match own.lookup d with
    | some v => if Kind.keeps d v then some (d, v) else none
    | none => none)⟩

/-- The text of a fault: what went wrong, and the details in brackets. -/
def text (f : Fault) : String :=
  if f.details.isEmpty then f.message
  else f.message ++ " [" ++ ", ".intercalate (f.details.map fun d => d.1 ++ "=" ++ d.2.literal) ++ "]"

/-- The literal of a fault. -/
def literal (f : Fault) : String :=
  f.kind.name ++ "(message=" ++ Text.quoted f.message ++ ", details=" ++ (Json.obj f.details).literal ++ ")"

/-- The details of a document that is not valid. -/
def ofIssues (message field : String) (issues : List Issue) : Fault :=
  make .validation message [("field_name", .str field)] [("errors", .arr (issues.map Issue.toJson))]

end Fault

end Bestiary
