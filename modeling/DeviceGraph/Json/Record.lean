import DeviceGraph.Json.Basic

/-!
# Records in JSON

A record is written as an object of its fields or as an array of them in their
order. Fields that are not known are ignored in an object and refused in an
array. A field can be required, have a value of its own when it is missing, or
be optional, where `null` stands for no value.
-/

set_option autoImplicit false

namespace DeviceGraph

structure Record where
  members : List (String × Json)
  inOrder : Bool

namespace Json

def record? (fields : List String) : Json → Option Record
  | .object members => some ⟨members, false⟩
  | .array items => if items.length ≤ fields.length then some ⟨fields.zip items, true⟩ else none
  | _ => none

def string? : Json → Option String
  | .string s => some s
  | _ => none

def bool? : Json → Option Bool
  | .bool b => some b
  | _ => none

def natBelow? (bound : Nat) : Json → Option Nat
  | .number (.whole n) => if 0 ≤ n ∧ n < bound then some n.toNat else none
  | _ => none

/-- A word of an enumeration, which may also be the only key of an object with a `null`. -/
def tag? : Json → Option String
  | .string s => some s
  | .object [(name, .null)] => some name
  | _ => none

/-- A word of an enumeration as `tag?` reads it, or the only key of an object with an empty
object. -/
def looseTag? : Json → Option String
  | .object [(name, .object [])] => some name
  | j => j.tag?

def list? {α : Type} (read : Json → Option α) : Json → Option (List α)
  | .array items => items.mapM read
  | _ => none

def dict? : Json → Option (Dict Json)
  | .object members => some (Dict.ofList members)
  | _ => none

def dictOf? {α : Type} (read : Json → Option α) : Json → Option (Dict α)
  | .object members => do
    let entries ← members.mapM fun member => (read member.2).map (member.1, ·)
    return Dict.ofList entries
  | _ => none

end Json

namespace Record

variable {α : Type}

def required (r : Record) (field : String) (read : Json → Option α) : Option α :=
  match Entries.get? field r.members with
  | some value => read value
  | none => none

/-- A field that has a value of its own when it is missing. -/
def defaulted (r : Record) (field : String) (default : α) (read : Json → Option α) : Option α :=
  match Entries.get? field r.members with
  | some value => read value
  | none => some default

/-- A field that may be `null` or missing; an array must hold it when `listed` is set. -/
def optional (r : Record) (field : String) (read : Json → Option α) (listed : Bool := false) :
    Option (Option α) :=
  match Entries.get? field r.members with
  | some .null => some none
  | some value => (read value).map some
  | none => if listed && r.inOrder then none else some none

end Record

end DeviceGraph
