import DeviceGraph.Number.Double

/-!
# Reading numbers

Two readings of number texts. A whole number is an optional sign and decimal
digits. A real number is an optional sign and digits with an optional fraction
and exponent, of which digits on one side of the point suffice, or a word for
infinity or for no number; it is rounded once to the nearest double. Whole numbers
are kept where a word of 64 bits holds them.
-/

set_option autoImplicit false

namespace DeviceGraph.Number

/-- How many numbers a word of 32 bits holds. -/
def word32 : Nat := 4294967296

def word64 : Nat := 18446744073709551616

/-- How many numbers a signed word of 32 bits holds on each side of zero. -/
def half32 : Nat := 2147483648

def half64 : Nat := 9223372036854775808

def fitsSigned (n : Int) : Bool := -(half64 : Int) ≤ n && n < (half64 : Int)

def fitsUnsigned (n : Int) : Bool := 0 ≤ n && n < (word64 : Int)

/-- The values of digit characters, none if one of them is no digit. -/
def digits? : List Char → Option (List Nat)
  | [] => some []
  | c :: rest =>
    if c.isDigit then (digits? rest).map ((c.toNat - 48) :: ·) else none

def ofDigits (digits : List Nat) : Nat := digits.foldl (fun n d => 10 * n + d) 0

def cutSign : List Char → Bool × List Char
  | '-' :: rest => (true, rest)
  | '+' :: rest => (false, rest)
  | rest => (false, rest)

def int? (s : String) : Option Int :=
  let (negative, rest) := cutSign s.toList
  match rest, digits? rest with
  | [], _ => none
  | _, none => none
  | _, some digits => some (if negative then -(ofDigits digits : Int) else ofDigits digits)

def signed? (s : String) : Option Int := (int? s).filter fitsSigned

/-- The unsigned 64-bit number that a text writes; a minus sign is never part of it. -/
def unsigned? (s : String) : Option Nat :=
  if s.toList.head? = some '-' then none
  else ((int? s).filter fitsUnsigned).map Int.toNat

/-- What a real number text can stand for. -/
inductive Real
  | finite (value : Double)
  | infinite (negative : Bool)
  | notANumber
  deriving DecidableEq, Repr

def ofDecimal (negative : Bool) (digits : List Nat) (exponent : Int) : Real :=
  let significant := digits.dropWhile (· == 0)
  let size : Int := significant.length + exponent
  if significant = [] ∨ size < -330 then .finite (Double.zero.withSign negative)
  else if 310 < size then .infinite negative
  else
    let n := ofDigits significant
    match Double.ofQuotient? (n * Nat.pow 10 exponent.toNat) (Nat.pow 10 (-exponent).toNat) with
    | some x => .finite (x.withSign negative)
    | none => .infinite negative

/-- The exponent after the letter `e`: an optional sign and at least one digit. -/
def exponent? (s : List Char) : Option Int :=
  let (negative, rest) := cutSign s
  match rest, digits? rest with
  | [], _ => none
  | _, none => none
  | _, some digits => some (if negative then -(ofDigits digits : Int) else ofDigits digits)

def unsignedReal? (negative : Bool) (s : List Char) : Option Real := do
  let mantissa := s.takeWhile (fun c => c ≠ 'e' ∧ c ≠ 'E')
  let exponent ← match s.dropWhile (fun c => c ≠ 'e' ∧ c ≠ 'E') with
    | [] => some 0
    | _ :: rest => exponent? rest
  let whole ← digits? (mantissa.takeWhile (· ≠ '.'))
  let fraction ← digits? ((mantissa.dropWhile (· ≠ '.')).drop 1)
  if whole = [] ∧ fraction = [] then none
  else some (ofDecimal negative (whole ++ fraction) (exponent - fraction.length))

def real? (s : String) : Option Real :=
  let (negative, rest) := cutSign s.toList
  let word := rest.map Char.toLower
  if word = ['i', 'n', 'f'] ∨ word = ['i', 'n', 'f', 'i', 'n', 'i', 't', 'y'] then
    some (.infinite negative)
  else if word = ['n', 'a', 'n'] then some .notANumber
  else unsignedReal? negative rest

def finite? (s : String) : Option Double :=
  match real? s with
  | some (.finite x) => some x
  | _ => none

end DeviceGraph.Number
