import Bestiary.Number.Arithmetic
/-!
# Amounts

What a dice notation comes to is an amount: a whole number of any size, or a double where a decimal or a
quotient is involved. Whole numbers stay whole and exact under every operation but the quotient.
-/
namespace Bestiary.Dice

open Number (Double)

/-- A whole number or a double. -/
inductive Amount where
  | whole (n : Int)
  | real (x : Double)
  deriving DecidableEq, Repr, Inhabited

/-- The operations that join two amounts. -/
inductive Operation where
  | add
  | sub
  | mul
  | div
  | floorDiv
  /-- The remainder of the quotient rounded down. -/
  | floorMod
  /-- One if the amounts are equal, else zero. -/
  | eq
  /-- One if the amounts differ, else zero. -/
  | ne
  /-- One if the first is less, else zero. -/
  | lt
  /-- One if the first is not greater, else zero. -/
  | le
  /-- One if the first is greater, else zero. -/
  | gt
  /-- One if the first is not less, else zero. -/
  | ge
  deriving DecidableEq, Repr

/-- Why an amount cannot be had. -/
inductive Amount.Flaw where
  | divisionByZero
  /-- The quotient of two whole numbers is beyond the range of doubles. -/
  | quotientTooLarge
  /-- A whole number meets a double and is beyond their range. -/
  | wholeTooLarge
  /-- An infinite amount is no total. -/
  | infiniteTotal
  /-- The amount that is no number is no total. -/
  | undefinedTotal
  deriving DecidableEq, Repr

namespace Amount

def zero : Amount := .whole 0

/-- The amount as a double. -/
def toDouble : Amount → Except Flaw Double
  | .real x => .ok x
  | .whole n => if (Double.ofInt n).isInfinite then .error .wholeTooLarge else .ok (Double.ofInt n)

/-- How two amounts compare; what is no number compares with nothing. -/
def compare? : Amount → Amount → Option Ordering
  | .whole a, .whole b => some (compare a b)
  | a, b =>
    let infinite (sign : Bool) : Ordering := if sign then .lt else .gt
    match position a, position b with
    | .inl none, _ | _, .inl none => none
    | .inl (some s), .inl (some t) => some (if s = t then .eq else infinite s)
    | .inl (some s), .inr _ => some (infinite s)
    | .inr _, .inl (some t) => some (infinite !t)
    | .inr (n, d), .inr (m, e) => some (compare (n * e) (m * d))
where
  /-- A fraction, an infinity by whether it is negative, or neither. -/
  position : Amount → Option Bool ⊕ (Int × Nat)
    | .whole n => .inr (n, 1)
    | .real x =>
      match x.fraction? with
      | some q => .inr q
      | none => .inl (if x.isInfinite then some x.isNegative else none)

/-- Whether the first amount is less than the second. -/
def lt (a b : Amount) : Bool := compare? a b == some .lt

/-- Whether the amounts are equal. -/
def same (a b : Amount) : Bool := compare? a b == some .eq

/-- Whether the amount is zero. -/
def isZero : Amount → Bool
  | .whole n => n = 0
  | .real x => x.isZero

/-- One if the test holds, else zero. -/
def ofTest (b : Bool) : Amount := .whole (if b then 1 else 0)

/-- The amount with the other sign. -/
def neg : Amount → Amount
  | .whole n => .whole (-n)
  | .real x => .real x.neg

/-- An operation on whole numbers, and the one on doubles where one of the amounts is a double. -/
def lift (whole : Int → Int → Int) (real : Double → Double → Double) : Amount → Amount → Except Flaw Amount
  | .whole a, .whole b => .ok (.whole (whole a b))
  | a, b => do
    let x ← a.toDouble
    let y ← b.toDouble
    return .real (real x y)

/-- The quotient of two amounts. -/
def quotient : Amount → Amount → Except Flaw Amount
  | .whole a, .whole b =>
    let x := Double.ofRatio ((a < 0) != (b < 0)) a.natAbs b.natAbs
    if x.isInfinite then .error .quotientTooLarge else .ok (.real x)
  | a, b => do
    let x ← a.toDouble
    let y ← b.toDouble
    return .real (x.div y)

/-- The division, if it is not by zero. -/
def dividing (division : Amount → Amount → Except Flaw Amount) (a b : Amount) : Except Flaw Amount :=
  if b.isZero then do
    -- A whole number too large for a double is noticed before the zero it meets.
    if let .real _ := b then discard a.toDouble
    throw .divisionByZero
  else division a b

/-- The two amounts joined. -/
def join : Operation → Amount → Amount → Except Flaw Amount
  | .add => lift (· + ·) Double.add
  | .sub => lift (· - ·) Double.sub
  | .mul => lift (· * ·) Double.mul
  | .div => dividing quotient
  | .floorDiv => dividing (lift Int.fdiv Double.floorDiv)
  | .floorMod => dividing (lift Int.fmod Double.floorMod)
  | .eq => fun a b => .ok (ofTest (same a b))
  | .ne => fun a b => .ok (ofTest !(same a b))
  | .lt => fun a b => .ok (ofTest (lt a b))
  | .le => fun a b => .ok (ofTest (lt a b || same a b))
  | .gt => fun a b => .ok (ofTest (lt b a))
  | .ge => fun a b => .ok (ofTest (lt b a || same a b))

/-- The amount as a whole number, rounded toward zero. -/
def toTotal : Amount → Except Flaw Int
  | .whole n => .ok n
  | .real x =>
    match x.truncate? with
    | some n => .ok n
    | none => .error (if x.isInfinite then .infiniteTotal else .undefinedTotal)

@[simp] theorem join_add_whole (a b : Int) : join .add (.whole a) (.whole b) = .ok (.whole (a + b)) := rfl

@[simp] theorem join_sub_whole (a b : Int) : join .sub (.whole a) (.whole b) = .ok (.whole (a - b)) := rfl

@[simp] theorem toTotal_whole (n : Int) : toTotal (.whole n) = .ok n := rfl

end Amount

end Bestiary.Dice
