import DeviceGraph.Dict
import DeviceGraph.Number.Reading
import DeviceGraph.Number.Shortest
import DeviceGraph.Json.Printer
import DeviceGraph.Text.LowerCase

/-!
# Settings

A setting is a value of a settings file or an environment variable. Where
another kind of value is wanted it is converted if it can be read as one: `1`
and `yes` are true, and a number may stand where a text is wanted.
-/

set_option autoImplicit false

namespace DeviceGraph

inductive Setting
  | null
  | bool (b : Bool)
  | whole (n : Int)
  | real (x : Number.Real)
  | text (s : String)
  | list (items : List Setting)
  | table (entries : List (String × Setting))

namespace Setting

/-! ## Conversions -/

def realText : Number.Real → String
  | .finite x => x.plainText
  | .infinite negative => if negative then "-inf" else "inf"
  | .notANumber => "NaN"

def string? : Setting → Option String
  | .text s => some s
  | .bool b => some (if b then "true" else "false")
  | .whole n => some (decimalText n)
  | .real x => some (realText x)
  | _ => none

def truthWord? (s : String) : Option Bool :=
  if s ∈ ["true", "on", "yes"] then some true
  else if s ∈ ["false", "off", "no"] then some false
  else none

def bool? : Setting → Option Bool
  | .bool b => some b
  | .whole n => some (n ≠ 0)
  | .real (.finite x) => some (!x.isZero)
  | .real _ => some true
  | .text s =>
    let word := Text.lowerCase s
    if word = "1" then some true else if word = "0" then some false else truthWord? word
  | _ => none

def largest : Nat := Number.word64 - 1

/-- A real number as a natural one of 64 bits: rounded, and cut off at both ends. -/
def roundReal : Number.Real → Nat
  | .finite x => if x.negative then 0 else min x.roundHalfUp largest
  | .infinite negative => if negative then 0 else largest
  | .notANumber => 0

def natural? : Setting → Option Nat
  | .bool b => some (if b then 1 else 0)
  | .whole n => if 0 ≤ n then some n.toNat else none
  | .real x => some (roundReal x)
  | .text s =>
    match truthWord? (Text.lowerCase s) with
    | some b => some (if b then 1 else 0)
    | none => Number.unsigned? s
  | _ => none

def naturalBelow? (bound : Nat) (s : Setting) : Option Nat := s.natural?.filter (· < bound)

/-! ## Records -/

/-- The fields of a record: the entries of a table, or a list in their order. -/
def record? (fields : List String) : Setting → Option (List (String × Setting))
  | .table entries => some entries
  | .list items => some (fields.zip items)
  | _ => none

/-- A field that has a value of its own when it is missing. -/
def field {α : Type} (members : List (String × Setting)) (name : String) (default : α)
    (read : Setting → Option α) : Option α :=
  match Entries.get? name members with
  | some value => read value
  | none => some default

end Setting

end DeviceGraph
