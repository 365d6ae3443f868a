import Bestiary.Text.Range
/-!
# Blank characters

The characters that count as blank when a text is trimmed: white space and the control characters that
separate files, groups, records and units.
-/
namespace Bestiary.Text

/-- Code points of the characters that are white space. -/
def spaceRanges : List (Nat × Nat) :=
  [(9, 13), (32, 32), (133, 133), (160, 160), (5760, 5760), (8192, 8202), (8232, 8233), (8239, 8239),
   (8287, 8287), (12288, 12288)]

/-- Whether the character is white space. -/
def isSpace (c : Char) : Bool := inRanges spaceRanges c.toNat

/-- Whether the character is blank: white space, or a separator of files, groups, records or units. -/
def isBlank (c : Char) : Bool := isSpace c || inRanges [(28, 31)] c.toNat

/-- The characters without those of a class at both ends. -/
def stripBoth (p : Char → Bool) (cs : List Char) : List Char :=
  ((cs.dropWhile p).reverse.dropWhile p).reverse

/-- The text without the blanks at both ends. -/
def trim (s : String) : String := String.ofList (stripBoth isBlank s.toList)

/-- Whether nothing but blanks is in the text. -/
def isBlankText (s : String) : Bool := s.toList.all isBlank

end Bestiary.Text
