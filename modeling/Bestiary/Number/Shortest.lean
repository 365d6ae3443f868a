import Bestiary.Number.Double
/-!
# Shortest decimal text

The text of a double has the fewest decimal digits that still read back as the same double, and among
those the digits nearest to it; a tie goes to the even digit. `Double.shortest` finds them on exact
fractions: for one digit, then two, and so on, it tests the two neighbours of the number on the grid of that
many digits against the interval of reals that round to the double. How the digits are laid out is a `Style`.
-/
namespace Bestiary.Number

/-- The greatest `e` with `10 ^ e ≤ num / den`, for a positive fraction. -/
def decimalOrder (num den : Nat) : Int :=
  let guess : Int := (Double.binaryOrder num den * 30103) / 100000
  let atMost (e : Int) : Bool :=
    if 0 ≤ e then Nat.pow 10 e.toNat * den ≤ num else den ≤ num * Nat.pow 10 (-e).toNat
  if atMost (guess + 1) then guess + 1 else if atMost guess then guess else guess - 1

/-- Digits and decimal exponent of a positive number: it is near `digits * 10 ^ exponent`. -/
structure Decimal where
  /-- The digits, as one natural number. -/
  digits : Nat
  /-- The power of ten they are multiplied by. -/
  exponent : Int
  deriving DecidableEq, Repr

namespace Double

/-- The reals that round to `mantissa * 2 ^ exponent`, together with the number itself, as numerators
over four times the unit of the mantissa: lower end, number, upper end. -/
def interval (mantissa : Nat) (exponent : Int) : Nat × Nat × Nat :=
  let below := if mantissa = Nat.pow 2 52 ∧ -1074 < exponent then 1 else 2
  (4 * mantissa - below, 4 * mantissa, 4 * mantissa + 2)

/-- The neighbour of `mantissa * 2 ^ exponent` among the multiples of `10 ^ grid` that reads back as it,
the nearer one if both do, and the even one if both are equally near. -/
def gridPoint? (mantissa : Nat) (exponent grid : Int) : Option Nat :=
  let (low, mid, high) := interval mantissa exponent
  let (binaryNum, binaryDen) := scale 1 1 (exponent - 2)
  let num := fun (quarter : Nat) => quarter * binaryNum * (if grid < 0 then Nat.pow 10 (-grid).toNat else 1)
  let den := binaryDen * (if 0 ≤ grid then Nat.pow 10 grid.toNat else 1)
  let inside (n : Nat) : Bool :=
    if mantissa % 2 = 0 then num low ≤ n * den && n * den ≤ num high
    else num low < n * den && n * den < num high
  let floor := num mid / den
  let above := floor + 1
  match inside floor, inside above with
  | true, true =>
    match compare (num mid - floor * den) (above * den - num mid) with
    | .lt => some floor
    | .eq => some (if floor % 2 = 0 then floor else above)
    | .gt => some above
  | true, false => some floor
  | false, true => some above
  | false, false => none

/-- The shortest digits of a positive finite double. -/
def shortest (mantissa : Nat) (exponent : Int) : Decimal :=
  let scaled := scale mantissa 1 exponent
  let order := decimalOrder scaled.1 scaled.2
  let found := (List.range 17).findSome? fun (count : Nat) =>
    let grid := order - count
    (gridPoint? mantissa exponent grid).map fun digits => Decimal.mk digits grid
  found.getD ⟨mantissa, exponent⟩

end Double

/-- How the digits of a double are laid out. -/
structure Style where
  /-- Numbers below `10 ^ leastPoint` are written with an exponent. -/
  leastPoint : Int
  /-- Numbers from `10 ^ greatestPoint` on are written with an exponent. -/
  greatestPoint : Int
  /-- Whether a positive exponent carries a plus sign. -/
  plusSign : Bool
  /-- The least number of digits of an exponent. -/
  exponentWidth : Nat
  /-- The texts of infinity and of the value that is no number; null stands for both where there are none. -/
  names : Option (String × String)
  deriving Repr

namespace Style

/-- The layout of numbers in literals: exponents have a sign and at least two digits. -/
def literal : Style := ⟨-4, 16, true, 2, some ("inf", "nan")⟩

/-- The layout of numbers in plain documents. -/
def document : Style := ⟨-4, 16, true, 2, some ("Infinity", "NaN")⟩

/-- The layout of numbers in exported documents: exponents are bare, and what is no finite number is null. -/
def exported : Style := ⟨-5, 16, false, 1, none⟩

/-- The digits without the zeros at their end, which move into the exponent. -/
def stripZeros : Nat → Decimal → Decimal
  | 0, d => d
  | fuel + 1, d => if d.digits % 10 = 0 then stripZeros fuel ⟨d.digits / 10, d.exponent + 1⟩ else d

/-- The text of an exponent. -/
def exponentText (style : Style) (e : Int) : String :=
  let sign := if e < 0 then "-" else if style.plusSign then "+" else ""
  let digits := toString e.natAbs
  "e" ++ sign ++ String.ofList (List.replicate (style.exponentWidth - digits.length) '0') ++ digits

/-- The text of a positive number. -/
def decimalText (style : Style) (d : Decimal) : String :=
  let d := stripZeros 20 d
  let digits := Nat.toDigits 10 d.digits
  let point : Int := digits.length + d.exponent
  if style.leastPoint < point ∧ point ≤ style.greatestPoint then
    if point ≤ 0 then
      "0." ++ String.ofList (List.replicate (-point).toNat '0') ++ String.ofList digits
    else if digits.length ≤ point.toNat then
      String.ofList digits ++ String.ofList (List.replicate (point.toNat - digits.length) '0') ++ ".0"
    else
      String.ofList (digits.take point.toNat) ++ "." ++ String.ofList (digits.drop point.toNat)
  else
    let fraction := match digits.drop 1 with
      | [] => ""
      | rest => "." ++ String.ofList rest
    String.ofList (digits.take 1) ++ fraction ++ exponentText style (point - 1)

/-- The text of a double. -/
def text (style : Style) (x : Double) : String :=
  let sign (negative : Bool) : String := if negative then "-" else ""
  match x.read, style.names with
  | .finite negative mantissa exponent, _ =>
    if mantissa = 0 then sign negative ++ "0.0"
    else sign negative ++ style.decimalText (Double.shortest mantissa exponent)
  | .infinite negative, some names => sign negative ++ names.1
  | .undefined, some names => names.2
  | _, none => "null"

end Style

end Bestiary.Number
