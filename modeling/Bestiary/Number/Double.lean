/-!
# Double-precision numbers

A double is its 64 bits. Read out, it is a sign and a natural number times a power of two, or an
infinity, or not a number; `ofRatio` rounds a quotient of natural numbers to the nearest double, the
even one of two equally near. Everything is exact arithmetic on natural numbers, so equality of
doubles is decidable and distinguishes the two zeros.
-/
namespace Bestiary.Number

/-- A double, by its bits. -/
structure Double where
  /-- Sign, exponent and fraction, as they are stored. -/
  bits : UInt64
  deriving DecidableEq, Repr, Inhabited

namespace Double

/-- What a double stands for. -/
inductive Reading where
  /-- The number `± mantissa * 2 ^ exponent`. -/
  | finite (negative : Bool) (mantissa : Nat) (exponent : Int)
  | infinite (negative : Bool)
  | undefined
  deriving DecidableEq, Repr

def read (x : Double) : Reading :=
  let n := x.bits.toNat
  let negative := n / Nat.pow 2 63 == 1
  let biased : Nat := n / Nat.pow 2 52 % Nat.pow 2 11
  let fraction := n % Nat.pow 2 52
  if biased = 2047 then
    if fraction = 0 then .infinite negative else .undefined
  else if biased = 0 then .finite negative fraction (-1074)
  else .finite negative (Nat.pow 2 52 + fraction) ((biased : Int) - 1075)

/-- Whether a double is a number and not infinite. -/
def isFinite (x : Double) : Bool :=
  match x.read with
  | .finite .. => true
  | _ => false

/-- The bits of the sign. -/
def signBits (negative : Bool) : Nat := if negative then Nat.pow 2 63 else 0

/-- Infinity, with its sign. -/
def infinity (negative : Bool) : Double := ⟨.ofNat (signBits negative + 2047 * Nat.pow 2 52)⟩

/-- The value that is no number. -/
def nan : Double := ⟨.ofNat (4095 * Nat.pow 2 51)⟩

/-- The double `± mantissa * 2 ^ exponent`, for a mantissa of at most 53 bits that has all 53 unless the
exponent is -1074, the least there is. A mantissa of exactly `2 ^ 53` carries over. -/
def assemble (negative : Bool) (mantissa : Nat) (exponent : Int) : Double :=
  if mantissa < Nat.pow 2 52 then ⟨.ofNat (signBits negative + mantissa)⟩
  else
    let carried := mantissa = Nat.pow 2 53
    let fraction := if carried then 0 else mantissa - Nat.pow 2 52
    let biased := (if carried then exponent + 1 else exponent) + 1075
    if 2047 ≤ biased then infinity negative
    else ⟨.ofNat (signBits negative + biased.toNat * Nat.pow 2 52 + fraction)⟩

/-- The quotient, rounded to the nearest integer and of two equally near ones to the even one. -/
def roundQuotient (num den : Nat) : Nat :=
  let quotient := num / den
  let twice := 2 * (num % den)
  if twice < den then quotient
  else if den < twice then quotient + 1
  else quotient + quotient % 2

/-- A fraction times a power of two, as a fraction. -/
def scale (num den : Nat) (exponent : Int) : Nat × Nat :=
  if 0 ≤ exponent then (num * Nat.pow 2 exponent.toNat, den) else (num, den * Nat.pow 2 (-exponent).toNat)

/-- The exponent of the greatest power of two that is at most `num / den`. -/
def binaryOrder (num den : Nat) : Int :=
  let guess : Int := (num.log2 : Int) - den.log2
  let scaled := scale num den (-guess)
  if scaled.1 < scaled.2 then guess - 1 else guess

/-- The double nearest to `± num / den`. -/
def ofRatio (negative : Bool) (num den : Nat) : Double :=
  if num = 0 then ⟨.ofNat (signBits negative)⟩
  else
    let exponent := max (binaryOrder num den - 52) (-1074)
    let scaled := scale num den (-exponent)
    assemble negative (roundQuotient scaled.1 scaled.2) exponent

/-- The double nearest to `± digits * 10 ^ exponent`. Exponents far beyond the range of doubles are
settled without computing the power. -/
def ofDecimal (negative : Bool) (digits : Nat) (exponent : Int) : Double :=
  if digits = 0 then ⟨.ofNat (signBits negative)⟩
  else if 400 < exponent then infinity negative
  else if exponent + digits.log2 < -1200 then ⟨.ofNat (signBits negative)⟩
  else if 0 ≤ exponent then ofRatio negative (digits * Nat.pow 10 exponent.toNat) 1
  else ofRatio negative digits (Nat.pow 10 (-exponent).toNat)

/-- The double nearest to an integer. -/
def ofInt (n : Int) : Double := ofRatio (n < 0) n.natAbs 1

/-- The machine's float with these bits. -/
def toFloat (x : Double) : Float := Float.ofBits x.bits

/-- The double with a float's bits. -/
def ofFloat (x : Float) : Double := ⟨x.toBits⟩

/-- The integer a double equals, if it is finite and whole. -/
def toInt? (x : Double) : Option Int :=
  match x.read with
  | .finite negative mantissa exponent =>
    let sign : Int := if negative then -1 else 1
    if 0 ≤ exponent then some (sign * (mantissa * Nat.pow 2 exponent.toNat : Nat))
    else
      let unit := Nat.pow 2 (-exponent).toNat
      if mantissa % unit = 0 then some (sign * (mantissa / unit : Nat)) else none
  | _ => none

end Double

end Bestiary.Number
