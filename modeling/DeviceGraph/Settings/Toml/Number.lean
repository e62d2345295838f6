import DeviceGraph.Settings.Basic
import DeviceGraph.Text.Percent

/-!
# Numbers in TOML

A whole number is decimal with an optional sign, or has a mark for the base
two, eight or sixteen. A real number has a fraction or an exponent or both, or
is a word. Underscores may stand between digits.
-/

set_option autoImplicit false

namespace DeviceGraph.Toml

/-- Drops underscores, which must stand between digits. -/
def dropUnderscores? (isDigit : Char → Bool) : List Char → Option (List Char)
  | [] => some []
  | a :: '_' :: b :: rest =>
    if isDigit a && isDigit b then (dropUnderscores? isDigit (b :: rest)).map (a :: ·) else none
  | c :: rest => if c = '_' then none else (dropUnderscores? isDigit rest).map (c :: ·)

def digit? (base : Nat) (c : Char) : Option Nat := (Text.hexValue? c).filter (· < base)

def ofBase? (base : Nat) (s : List Char) : Option Setting := do
  let digits ← dropUnderscores? (fun c => (digit? base c).isSome) s
  let n ← digits.foldlM (fun n c => (digit? base c).map (base * n + ·)) 0
  if digits ≠ [] ∧ n < Number.half64 then return .whole n else none

def isWhole (digits : List Char) : Bool :=
  digits ≠ [] && digits.all Char.isDigit && (digits.length = 1 || digits.head? ≠ some '0')

/-- Whether a text is a fraction or an exponent of a number, or both. -/
def isTail (s : List Char) : Bool :=
  let fraction := s.takeWhile fun c => c ≠ 'e' ∧ c ≠ 'E'
  let exponent := s.dropWhile fun c => c ≠ 'e' ∧ c ≠ 'E'
  let isFraction : Bool := match fraction with
    | [] => true
    | '.' :: digits => digits ≠ [] && digits.all Char.isDigit
    | _ => false
  let isExponent : Bool := match exponent with
    | [] => true
    | _ :: rest => ((Number.cutSign rest).2 ≠ [] && (Number.cutSign rest).2.all Char.isDigit)
  isFraction && isExponent

/-- A real number in digits. One that is too large for a double is refused unless it is
negative. -/
def ofReal? (s : List Char) : Option Setting :=
  match Number.real? (String.ofList s) with
  | some (.infinite false) | none => none
  | some x => some (.real x)

def ofDecimal? (s : List Char) : Option Setting := do
  let digits ← dropUnderscores? Char.isDigit s
  let unsigned := (Number.cutSign digits).2
  let whole := unsigned.takeWhile Char.isDigit
  let tail := unsigned.dropWhile Char.isDigit
  if unsigned = "inf".toList || unsigned = "nan".toList then
    (Number.real? (String.ofList digits)).map .real
  else if !isWhole whole then none
  else if tail = [] then (Number.signed? (String.ofList digits)).map .whole
  else if isTail tail then ofReal? digits
  else none

def ofWord? (word : List Char) : Option Setting :=
  if word = "true".toList then some (.bool true)
  else if word = "false".toList then some (.bool false)
  else match word with
    | '0' :: 'x' :: digits => ofBase? 16 digits
    | '0' :: 'o' :: digits => ofBase? 8 digits
    | '0' :: 'b' :: digits => ofBase? 2 digits
    | word => ofDecimal? word

def isWordChar (c : Char) : Bool := c.isAlphanum || c = '_' || c = '-' || c = '+' || c = '.'

def word? (s : List Char) : Option (Setting × List Char) :=
  (ofWord? (s.takeWhile isWordChar)).map fun value => (value, s.dropWhile isWordChar)

end DeviceGraph.Toml
