import Bestiary.Number.Double
/-!
# Arithmetic of doubles

Sums, products and quotients are those of the machine's floats. Floored division and its remainder are
computed from the exact remainder, whose sign is the divisor's, and order is decided on exact fractions.
-/
namespace Bestiary.Number.Double

def add (x y : Double) : Double := ofFloat (x.toFloat + y.toFloat)

def sub (x y : Double) : Double := ofFloat (x.toFloat - y.toFloat)

def mul (x y : Double) : Double := ofFloat (x.toFloat * y.toFloat)

def div (x y : Double) : Double := ofFloat (x.toFloat / y.toFloat)

/-- The same number with the other sign. -/
def neg (x : Double) : Double := ⟨x.bits ^^^ .ofNat (Nat.pow 2 63)⟩

/-- Zero with this sign. -/
def zero (negative : Bool) : Double := ⟨.ofNat (signBits negative)⟩

/-- Whether the sign bit is set. -/
def isNegative (x : Double) : Bool := x.bits.toNat / Nat.pow 2 63 == 1

/-- Whether the number is zero, of either sign. -/
def isZero (x : Double) : Bool := x.bits.toNat % Nat.pow 2 63 == 0

/-- Whether the number is an infinity. -/
def isInfinite (x : Double) : Bool := x.bits.toNat % Nat.pow 2 63 == 2047 * Nat.pow 2 52

/-- The double `± numerator / denominator` as a fraction with a positive denominator. -/
def fraction? (x : Double) : Option (Int × Nat) :=
  match x.read with
  | .finite negative mantissa exponent =>
    let (num, den) := scale mantissa 1 exponent
    some (if negative then -num else num, den)
  | _ => none

/-- The remainder of truncated division, which has the sign of the dividend. It is exact. -/
def truncatedRemainder (x y : Double) : Double :=
  match x.fraction?, y.fraction? with
  | some (a, b), some (c, d) =>
    if c = 0 then nan
    else ofRatio x.isNegative ((a.natAbs * d) % (c.natAbs * b)) (b * d)
  | some _, none => if y.isInfinite then x else nan
  | none, _ => nan

/-- The quotient rounded down, and the remainder with the sign of the divisor. -/
def floorDivMod (x y : Double) : Double × Double :=
  let remainder := truncatedRemainder x y
  let quotient := (x.sub remainder).div y
  let (quotient, remainder) :=
    if remainder.isZero then (quotient, zero y.isNegative)
    else if y.isNegative != remainder.isNegative then (quotient.sub (ofInt 1), remainder.add y)
    else (quotient, remainder)
  if quotient.isZero then (zero (x.div y).isNegative, remainder)
  else
    let floor := ofFloat quotient.toFloat.floor
    (if (quotient.sub floor).toFloat > 0.5 then floor.add (ofInt 1) else floor, remainder)

/-- The quotient rounded down. -/
def floorDiv (x y : Double) : Double := (floorDivMod x y).1

/-- The remainder with the sign of the divisor. -/
def floorMod (x y : Double) : Double := (floorDivMod x y).2

/-- The integer nearest to a finite double on the side of zero. -/
def truncate? (x : Double) : Option Int :=
  x.fraction?.map fun (num, den) => num.tdiv den

end Bestiary.Number.Double
