import Bestiary.Json.Literal
/-!
# Issues

What is wrong in a document: the cause, and the place as keys and indexes from the top of the document.
-/
namespace Bestiary

/-- Why a value is not accepted. -/
inductive Issue.Cause where
  /-- A field that has to be given is absent. -/
  | missing
  /-- A key that the record does not have. -/
  | extraForbidden
  /-- No object for a record of this name. -/
  | notRecord (name : String)
  /-- No object that could say which record it is. -/
  | notTagged
  /-- An object that does not say which record it is. -/
  | noTag
  /-- An object that names no record there is. -/
  | unknownTag (tag : Json) (expected : List String)
  | intType
  /-- A text that writes no integer. -/
  | intParsing
  /-- A number with a fractional part. -/
  | intFromFloat
  /-- An integer with too many digits. -/
  | intParsingSize
  /-- A number that is infinite or none at all. -/
  | finiteNumber
  | greaterThanEqual (bound : Int)
  | lessThanEqual (bound : Int)
  | stringType
  /-- A text that is not one of characters. -/
  | stringUnicode
  /-- A text with too few characters. -/
  | stringTooShort (least : Nat)
  /-- A text with too many characters. -/
  | stringTooLong (most : Nat)
  | boolType
  /-- A value that stands for no truth value. -/
  | boolParsing
  | listType
  | setType
  | dictType
  | enum (expected : List String)
  /-- A value that a rule of the record refuses. -/
  | value (text : String)
  /-- Neither a moment nor the text of one. -/
  | datetimeType
  /-- A count that is no moment. -/
  | datetimeParsing
  /-- A text that is no moment. -/
  | datetimeFromDateParsing
  deriving DecidableEq, Repr

namespace Issue.Cause

/-- The short name of the cause. -/
def code : Issue.Cause → String
  | .missing => "missing"
  | .extraForbidden => "extra_forbidden"
  | .notRecord _ => "model_type"
  | .notTagged => "model_attributes_type"
  | .noTag => "union_tag_not_found"
  | .unknownTag _ _ => "union_tag_invalid"
  | .intType => "int_type"
  | .intParsing => "int_parsing"
  | .intFromFloat => "int_from_float"
  | .intParsingSize => "int_parsing_size"
  | .finiteNumber => "finite_number"
  | .greaterThanEqual _ => "greater_than_equal"
  | .lessThanEqual _ => "less_than_equal"
  | .stringType => "string_type"
  | .stringUnicode => "string_unicode"
  | .stringTooShort _ => "string_too_short"
  | .stringTooLong _ => "string_too_long"
  | .boolType => "bool_type"
  | .boolParsing => "bool_parsing"
  | .listType => "list_type"
  | .setType => "set_type"
  | .dictType => "dict_type"
  | .enum _ => "enum"
  | .value _ => "value_error"
  | .datetimeType => "datetime_type"
  | .datetimeParsing => "datetime_parsing"
  | .datetimeFromDateParsing => "datetime_from_date_parsing"

/-- The names between single quotes, with commas and a last "or". -/
def alternatives (names : List String) : String :=
  let quoted := names.map fun n => "'" ++ n ++ "'"
  match quoted.reverse with
  | last :: before :: rest => ", ".intercalate (before :: rest).reverse ++ " or " ++ last
  | _ => ", ".intercalate quoted

def characters (n : Nat) : String := toString n ++ (if n = 1 then " character" else " characters")

/-- The wording of the cause. -/
def message : Issue.Cause → String
  | .missing => "Field required"
  | .extraForbidden => "Extra inputs are not permitted"
  | .notRecord name => "Input should be a valid dictionary or instance of " ++ name
  | .notTagged => "Input should be a valid dictionary or object to extract fields from"
  | .noTag => "Unable to extract tag using discriminator 'type'"
  | .unknownTag tag expected =>
    "Input tag '" ++ tag.display ++ "' found using 'type' does not match any of the expected tags: " ++
      ", ".intercalate (expected.map fun n => "'" ++ n ++ "'")
  | .intType => "Input should be a valid integer"
  | .intParsing => "Input should be a valid integer, unable to parse string as an integer"
  | .intFromFloat => "Input should be a valid integer, got a number with a fractional part"
  | .intParsingSize => "Unable to parse input string as an integer, exceeded maximum size"
  | .finiteNumber => "Input should be a finite number"
  | .greaterThanEqual bound => "Input should be greater than or equal to " ++ toString bound
  | .lessThanEqual bound => "Input should be less than or equal to " ++ toString bound
  | .stringType => "Input should be a valid string"
  | .stringUnicode => "Input should be a valid string, unable to parse raw data as a unicode string"
  | .stringTooShort least => "String should have at least " ++ characters least
  | .stringTooLong most => "String should have at most " ++ characters most
  | .boolType => "Input should be a valid boolean"
  | .boolParsing => "Input should be a valid boolean, unable to interpret input"
  | .listType => "Input should be a valid list"
  | .setType => "Input should be a valid set"
  | .dictType => "Input should be a valid dictionary"
  | .enum expected => "Input should be " ++ alternatives expected
  | .value text => "Value error, " ++ text
  | .datetimeType | .datetimeParsing => "Input should be a valid datetime"
  | .datetimeFromDateParsing => "Input should be a valid datetime or date"

end Issue.Cause

/-- A step from a value to one inside it. -/
inductive Issue.Place where
  /-- The entry of an object with this key, or the branch with this name. -/
  | key (name : String)
  /-- The item of a list with this index. -/
  | index (n : Nat)
  deriving DecidableEq, Repr

/-- Something that is wrong in a document. -/
structure Issue where
  /-- Why the value is not accepted. -/
  cause : Issue.Cause
  path : List Issue.Place
  deriving DecidableEq, Repr

namespace Issue

/-- The issue, seen from one place further out. -/
def within (place : Place) (issue : Issue) : Issue := { issue with path := place :: issue.path }

/-- The document of a place. -/
def Place.toJson : Place → Json
  | .key name => .str name
  | .index n => .int n

/-- The document of an issue. -/
def toJson (issue : Issue) : Json :=
  .obj [("type", .str issue.cause.code), ("loc", .arr (issue.path.map Place.toJson)), ("msg", .str issue.cause.message)]

end Issue

end Bestiary
