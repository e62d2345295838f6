import DeviceGraph.Number.Double

/-!
# The shortest decimal of a double

The digits of a double are the fewest that no other double is nearer to, and of
those the nearest to its value. They are found by trying finer and finer decimal
grids: on each the two neighbours of the value are tested against the interval
of numbers that round to it.
-/

set_option autoImplicit false

namespace DeviceGraph

/-- The number `digits · 10^exponent`. -/
structure Decimal where
  digits : Nat
  exponent : Int
  deriving DecidableEq, Repr

namespace Double

/-- Twice the lower end of the numbers that round to a double, in units. -/
def twiceLower (x : Double) : Nat :=
  if x.significand = Nat.pow 2 52 ∧ 0 < x.exponent then 2 * x.units - Nat.pow 2 (x.exponent - 1)
  else 2 * x.units - Nat.pow 2 x.exponent

def twiceUpper (x : Double) : Nat := 2 * x.units + Nat.pow 2 x.exponent

/-- Whether `num / den` units round to a double; the ends do when its
significand is even. -/
def roundsFrom (x : Double) (num den : Nat) : Bool :=
  if x.significand % 2 = 0 then x.twiceLower * den ≤ 2 * num && 2 * num ≤ x.twiceUpper * den
  else x.twiceLower * den < 2 * num && 2 * num < x.twiceUpper * den

/-- Numerator and denominator of `n · 10^k` in units. -/
def decimalUnits (n : Nat) (k : Int) : Nat × Nat :=
  (n * Nat.pow 10 k.toNat * unitsOfOne, Nat.pow 10 (-k).toNat)

/-- The point of the grid of step `10^k` that stands for a double, if one does. -/
def onGrid? (x : Double) (k : Int) : Option Nat :=
  let den := Nat.pow 10 k.toNat * unitsOfOne
  let num := x.units * Nat.pow 10 (-k).toNat
  let low := num / den
  let rest := num % den
  let hits := fun n => 0 < n && x.roundsFrom (decimalUnits n k).1 (decimalUnits n k).2
  match hits low, hits (low + 1) with
  | true, true =>
    if 2 * rest < den ∨ (2 * rest = den ∧ low % 2 = 0) then some low else some (low + 1)
  | true, false => some low
  | false, true => some (low + 1)
  | false, false => none

/-- The first grid with a point for a double, from step `10^k` downwards. -/
def firstGrid (x : Double) : Nat → Int → Decimal
  | 0, k => ⟨x.units, k⟩
  | fuel + 1, k =>
    match x.onGrid? k with
    | some n => ⟨n, k⟩
    | none => firstGrid x fuel (k - 1)

def leadingExponent (x : Double) : Int :=
  ((Nat.toDigits 10 (x.units * Nat.pow 10 400 / unitsOfOne)).length : Int) - 401

def dropZeros : Nat → Decimal → Decimal
  | 0, d => d
  | fuel + 1, d =>
    if d.digits ≠ 0 ∧ d.digits % 10 = 0 then dropZeros fuel ⟨d.digits / 10, d.exponent + 1⟩ else d

/-- The shortest decimal that reads back as the magnitude of a double. -/
def shortest (x : Double) : Decimal :=
  if x.isZero then ⟨0, 0⟩ else dropZeros 20 (x.firstGrid 18 (x.leadingExponent + 1))

def positional (digits : List Char) (exponent : Int) : List Char × List Char :=
  if 0 ≤ exponent then (digits ++ List.replicate exponent.toNat '0', [])
  else
    let places := (-exponent).toNat
    if digits.length ≤ places then
      (['0'], List.replicate (places - digits.length) '0' ++ digits)
    else (digits.take (digits.length - places), digits.drop (digits.length - places))

def signText (x : Double) : List Char := if x.negative then ['-'] else []

/-- A double in a value text: positional with a fraction when the leading digit
stands for `10^-5` to `10^15`, and otherwise with a signed exponent. -/
def text (x : Double) : String :=
  let d := x.shortest
  let digits := Nat.toDigits 10 d.digits
  let leading := d.exponent + digits.length - 1
  let body :=
    if -5 ≤ leading ∧ leading ≤ 15 then
      let (whole, fraction) := positional digits d.exponent
      whole ++ '.' :: (if fraction = [] then ['0'] else fraction)
    else
      let fraction := digits.drop 1
      digits.take 1 ++ (if fraction = [] then [] else '.' :: fraction) ++
        ['e', if leading < 0 then '-' else '+'] ++ Nat.toDigits 10 leading.natAbs
  String.ofList (x.signText ++ body)

/-- A double in a settings text: always positional, and without a fraction when it is zero. -/
def plainText (x : Double) : String :=
  let d := x.shortest
  let (whole, fraction) := positional (Nat.toDigits 10 d.digits) d.exponent
  String.ofList (x.signText ++ whole ++ if fraction = [] then [] else '.' :: fraction)

end Double

end DeviceGraph
