import Bestiary.Fault
import Bestiary.Notice
/-!
# The log

A log shows what weighs at least as much as its level. An event is shown as a document, which also has what
was bound to the log before; a record of another program is shown as a line, and can be repeated in a file.
-/
namespace Bestiary

/-- The ways to write to a log. -/
inductive Log.Manner where
  | at (level : Level)
  /-- As an error, about what was raised. -/
  | raised
  deriving DecidableEq, Repr

namespace Log.Manner

/-- The level of a manner. -/
def level : Log.Manner → Level
  | .at level => level
  | .raised => .error

/-- The names of the manners. -/
def names : List (String × Log.Manner) :=
  [("debug", .at .debug), ("info", .at .info), ("msg", .at .info), ("warning", .at .warning), ("warn", .at .warning),
    ("error", .at .error), ("exception", .raised), ("critical", .at .critical), ("fatal", .at .critical)]

/-- The manner with this name. -/
def ofName? (s : String) : Option Log.Manner := names.lookup s

end Log.Manner

structure Log where
  /-- The least weight that is shown. -/
  least : Nat
  bound : Entries
  deriving DecidableEq, Repr

namespace Log

/-- The capital form of a letter; the letters whose capital is in ASCII are enough to compare names of
levels. -/
def capital (c : Char) : Char :=
  if c = 'ı' then 'I' else if c = 'ſ' then 'S' else c.toUpper

/-- The weights by the names of levels. -/
def weights : List (String × Nat) :=
  [("NOTSET", 0), ("DEBUG", 10), ("INFO", 20), ("WARN", 30), ("WARNING", 30), ("ERROR", 40), ("CRITICAL", 50),
    ("FATAL", 50)]

/-- A log that shows what is named and what weighs more. Names are read without regard to case. -/
def atLeast (name : String) : Except Fault Log :=
  match weights.lookup (String.ofList (name.toList.map capital)) with
  | some w => .ok ⟨w, []⟩
  | none => .error (.make .configuration ("Unknown log level: " ++ name) [("config_key", .str "log_level")] [])

/-- Whether a level is shown. -/
def shows (log : Log) (level : Level) : Bool := decide (log.least ≤ level.weight)

/-- The log that has more bound to it. -/
def bind (fields : Entries) (log : Log) : Log := { log with bound := log.bound.overlay fields }

/-- The log that has nothing bound to it. -/
def clear (log : Log) : Log := { log with bound := [] }

/-- Fields that steer how an event is shown and are not shown themselves. -/
def steering : List String := ["exc_info", "stack_info", "timestamp"]

/-- The document of an event, if it is shown. What the event says goes before what is bound. -/
def event? (log : Log) (level : Level) (title : Json) (fields : Entries) : Option Json :=
  if log.shows level then
    some (.obj ((Entries.overlay (Entries.overlay log.bound fields)
      [("event", title), ("level", .str level.name), ("app", .str "special_actions")]).filter
        fun entry => !steering.contains entry.1))
  else none

/-- The characters up to each line break, and after the last one. -/
def linesOf : List Char → List (List Char)
  | [] => [[]]
  | c :: rest =>
    if c = '\n' then [] :: linesOf rest
    else
      match linesOf rest with
      | line :: lines => (c :: line) :: lines
      | [] => [[c]]

/-- The lines of a record of a program with this name. Where nothing was raised the record says so. -/
def record (log : Log) (manner : Manner) (program text : String) : List String :=
  if log.shows manner.level then
    (linesOf ("[" ++ manner.level.word ++ "] " ++ (if program = "" then "root" else program) ++ ": " ++
      text).toList).map String.ofList ++
      (match manner with
        | .raised => ["NoneType: None"]
        | .at _ => [])
  else []

end Log

end Bestiary
