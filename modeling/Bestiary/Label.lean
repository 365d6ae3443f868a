/-!
# Labels and names

A label is a text that is not empty. A name is a label of at most so many characters.
-/
namespace Bestiary

/-- A text that is not empty. -/
structure Label where
  text : String
  filled : text ≠ ""
  deriving DecidableEq, Repr

namespace Label

/-- The label of a text, unless it is empty. -/
def ofText? (s : String) : Option Label := if h : s ≠ "" then some ⟨s, h⟩ else none

@[simp] theorem ofText?_text (l : Label) : ofText? l.text = some l := by simp [ofText?, l.filled]

theorem text_inj {l m : Label} : l.text = m.text ↔ l = m := by
  cases l; cases m; simp

end Label

/-- A text of one to `most` characters. -/
structure Name (most : Nat) where
  text : String
  /-- It has a character and no more than `most`. -/
  fits : text ≠ "" ∧ text.length ≤ most
  deriving DecidableEq, Repr

namespace Name

variable {most : Nat}

/-- The name as a label. -/
def label (n : Name most) : Label := ⟨n.text, n.fits.1⟩

end Name

end Bestiary
