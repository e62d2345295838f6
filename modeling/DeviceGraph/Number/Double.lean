/-!
# Finite doubles

A finite double is `significand · 2^exponent` units of `2^-1074`, with a sign
that also zero has. The significand has at most 53 bits, and all 53 of them
unless the exponent is zero, so every double is written in one way. A quotient
of natural numbers is rounded to the nearest double, a tie to the even
significand, and products and quotients of doubles are rounded once.
-/

set_option autoImplicit false

namespace DeviceGraph

structure Double where
  negative : Bool
  significand : Nat
  exponent : Nat
  deriving DecidableEq, Repr

namespace Double

def zero : Double := ⟨false, 0, 0⟩

def isZero (x : Double) : Bool := x.significand == 0

/-- The number one, in units. -/
def unitsOfOne : Nat := Nat.pow 2 1074

/-- The distance from zero, in units of `2^-1074`. -/
def units (x : Double) : Nat := x.significand * Nat.pow 2 x.exponent

def withSign (negative : Bool) (x : Double) : Double := { x with negative := negative }

/-- The quotient rounded to the nearest integer, a tie to the even one. -/
def roundQuotient (num den : Nat) : Nat :=
  let q := num / den
  let r := num % den
  if den < 2 * r ∨ (2 * r = den ∧ q % 2 = 1) then q + 1 else q

/-- The nearest double to `num / den` units, none above the largest double. -/
def ofUnits? (num den : Nat) : Option Double :=
  let q := num / den
  let e := if q < Nat.pow 2 53 then 0 else Nat.log2 q - 52
  let m := roundQuotient num (den * Nat.pow 2 e)
  let x : Double := if m < Nat.pow 2 53 then ⟨false, m, e⟩ else ⟨false, Nat.pow 2 52, e + 1⟩
  if x.exponent ≤ 2045 then some x else none

def ofQuotient? (num den : Nat) : Option Double := ofUnits? (num * unitsOfOne) den

def mul? (x y : Double) : Option Double := ofUnits? (x.units * y.units) unitsOfOne

def div? (x y : Double) : Option Double := ofUnits? (x.units * unitsOfOne) y.units

/-- The magnitude rounded to a whole number, a half upwards. -/
def roundHalfUp (x : Double) : Nat := (2 * x.units + unitsOfOne) / (2 * unitsOfOne)

/-- Whether two doubles are the same number; the two zeros are. -/
def same (x y : Double) : Bool := x == y || (x.isZero && y.isZero)

end Double

end DeviceGraph
