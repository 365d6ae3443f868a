import Bestiary.Text.Blank
import Bestiary.Text.Digit
import Bestiary.Text.Printable
import Bestiary.Text.Lower
import Bestiary.Json.Printer
import Bestiary.Json.Parser
import Bestiary.Json.Literal
import Bestiary.Act
import Bestiary.Number.Arithmetic
import Bestiary.Dice.Amount
import Bestiary.Dice.Notation
import Bestiary.Dice.Reader
import Bestiary.Dice.Selection
import Bestiary.Dice.Throw
import Bestiary.Dice.Cup
import Bestiary.Moment.Text
import Bestiary.Issue
import Bestiary.Intake
import Bestiary.Label
import Bestiary.Tag
import Bestiary.Intake.Scalar
import Bestiary.Intake.Record
import Bestiary.Field
import Bestiary.Targeting
import Bestiary.Save
import Bestiary.Effect
import Bestiary.Effect.Document
import Bestiary.Trigger
import Bestiary.Action
import Bestiary.Combatant
import Bestiary.WordSet
import Bestiary.Creature
import Bestiary.Template
import Bestiary.Fault
import Bestiary.Notice
import Bestiary.Outcome
import Bestiary.Emission
import Bestiary.Encounter
import Bestiary.Encounter.Saving
import Bestiary.Encounter.Aim
import Bestiary.Encounter.Resolution
import Bestiary.Creature.Availability
import Bestiary.Creature.Command
import Bestiary.Audience
import Bestiary.Register
import Bestiary.Settings
import Bestiary.Log
import Bestiary.Catalogue
import Bestiary.Catalogue.Import
import Bestiary.Catalogue.Defaults
import Bestiary.Proofs.Encounter.Trace
import Bestiary.Proofs.Encounter.Backdrop
import Bestiary.Proofs.Encounter.Seating
import Bestiary.Proofs.Encounter.Replay
import Bestiary.Proofs.Encounter.Reach
import Bestiary.Proofs.Encounter.Halving
import Bestiary.Proofs.Document.Record
import Bestiary.Proofs.Document.Moment
import Bestiary.Proofs.Document.Effect
import Bestiary.Proofs.Document.Creature
import Bestiary.Proofs.Creature.Step
import Bestiary.Proofs.Creature.Limits
import Bestiary.Proofs.Creature.Ledger
import Bestiary.Proofs.Creature.Transaction
import Bestiary.Proofs.Creature.Recharging
import Bestiary.Proofs.Creature.Identity
import Bestiary.Proofs.Creature.Reload
import Bestiary.Proofs.Creature.Economy
import Bestiary.Proofs.Encounter.Hushed
import Bestiary.Proofs.Encounter.Inline
import Bestiary.Proofs.Encounter.Mirror
import Bestiary.Proofs.Encounter.Isolation
import Bestiary.Proofs.Audience.Standing
import Bestiary.Proofs.Dice.Whole
import Bestiary.Proofs.Dice.Tame
import Bestiary.Proofs.Number.Rounding
import Bestiary.Proofs.Number.Shortest
import Bestiary.Proofs.Json.Numeral
import Bestiary.Proofs.Json.Text
import Bestiary.Proofs.Document.Form
import Bestiary.Proofs.Document.Steady
import Bestiary.Proofs.Document.Verdict
import Bestiary.Proofs.Document.Copy
import Bestiary.Proofs.Document.Template
import Bestiary.Proofs.Catalogue.Upsert
import Bestiary.Proofs.Catalogue.Exchange
import Bestiary.Proofs.Catalogue.Creation
import Bestiary.Proofs.Catalogue.Admission
import Bestiary.Proofs.Table.Play
import Bestiary.Proofs.Table.Budget
import Bestiary.Proofs.Table.Vitality
import Bestiary.Proofs.Document.Agreement
import Bestiary.Proofs.Document.Spelling
import Bestiary.Proofs.Document.Reading
import Bestiary.Proofs.Dice.Tokens
import Bestiary.Proofs.Dice.Spaces
import Bestiary.Proofs.Dice.Memory
import Bestiary.Proofs.Encounter.Tally
import Bestiary.Proofs.Dice.Die
import Bestiary.Proofs.Creature.Renewal
import Bestiary.Proofs.Creature.Edits
import Bestiary.Proofs.Encounter.Sure
import Bestiary.Proofs.Encounter.Refusal
import Bestiary.Proofs.Encounter.Mishaps
import Bestiary.Proofs.Encounter.Fortune
import Bestiary.Proofs.Catalogue.Succession
import Bestiary.Proofs.Encounter.Aims
import Bestiary.Proofs.Dice.Addition
import Bestiary.Proofs.Dice.Total
