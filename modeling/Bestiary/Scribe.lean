import Bestiary.Json.Shape
/-!
# Scribes

Documents that leave the library are written by a scribe. A scribe may refuse a document and says why, but none that
suits it and nests no deeper than its reach. Dumping takes texts of characters, and null stands in a dump for a double
that is not finite; printing takes integers of so many digits.
-/
namespace Bestiary

structure Scribe (suits : Json → Bool) where
  /-- Why a document is not written. -/
  refusal? : Json → Option String
  /-- How deep the brackets of a document may nest in any case. -/
  reach : Nat
  shallow : ∀ j, suits j = true → j.depth ≤ reach → refusal? j = none

/-- Who dumps documents. -/
abbrev Dumper := Scribe Json.whole

/-- Who prints documents for a reader of the log. -/
abbrev Printer := Scribe Json.countable

/-- The dump of a document, or why there is none. -/
def Dumper.dump (dumper : Dumper) (j : Json) : Except String Json :=
  match dumper.refusal? j with
  | some reason => .error reason
  | none => .ok j.nulled

/-- A dumper of documents whose brackets nest less than 255 deep. -/
def Dumper.usual : Dumper where
  refusal? j := if j.depth ≤ 254 then none else some "Circular reference detected (depth exceeded)"
  reach := 254
  shallow _ _ within := if_pos within

/-- A printer of documents whose brackets nest no more than 900 deep. -/
def Printer.usual : Printer where
  refusal? j :=
    if j.countable then
      if j.depth ≤ 900 then none else some "maximum recursion depth exceeded while getting the repr of an object"
    else
      some ("Exceeds the limit (" ++ toString Text.digitLimit ++
        " digits) for integer string conversion; use sys.set_int_max_str_digits() to increase the limit")
  reach := 900
  shallow j countable within := by simp [countable, within]

end Bestiary
