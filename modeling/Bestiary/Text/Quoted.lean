import Bestiary.Text.Printable
/-!
# Quoted text

The literal of a text stands between single quotes, or between double quotes when it holds a single
quote and no double one. The quote, the backslash and every character that is not printable are escaped.
-/
namespace Bestiary.Text

/-- The hexadecimal digits of a number, at least so many. -/
def hexDigits (width n : Nat) : List Char :=
  let digits := Nat.toDigits 16 n
  List.replicate (width - digits.length) '0' ++ digits

namespace Quoted

/-- The quote a literal is put between. -/
def delimiter (cs : List Char) : Char :=
  if cs.contains '\'' && !cs.contains '"' then '"' else '\''

/-- A character as it stands in a literal. -/
def escape (quote c : Char) : List Char :=
  if c = quote ∨ c = '\\' then ['\\', c]
  else if c = '\t' then ['\\', 't']
  else if c = '\n' then ['\\', 'n']
  else if c = '\r' then ['\\', 'r']
  else if isPrintable c then [c]
  else if c.toNat < 256 then '\\' :: 'x' :: hexDigits 2 c.toNat
  else if c.toNat < 65536 then '\\' :: 'u' :: hexDigits 4 c.toNat
  else '\\' :: 'U' :: hexDigits 8 c.toNat

end Quoted

/-- The literal of a text. -/
def quoted (s : String) : String :=
  let quote := Quoted.delimiter s.toList
  String.ofList (quote :: s.toList.flatMap (Quoted.escape quote) ++ [quote])

/-- The literal of a text that is given by its code points. Half of a surrogate pair is escaped. -/
def quotedPoints (points : List Nat) : String :=
  let quote := Quoted.delimiter (points.map Char.ofNat)
  String.ofList (quote :: points.flatMap (fun n =>
    if n.isValidChar then Quoted.escape quote (Char.ofNat n) else '\\' :: 'u' :: hexDigits 4 n) ++ [quote])

end Bestiary.Text
