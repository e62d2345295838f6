import DeviceGraph.Json.Basic

/-!
# Forms of JSON values

A form says what a value must look like. A record is an object of its fields or
an array of them in their order. Fields that are not known are ignored in an
object, whatever their values are, and refused in an array.
-/

set_option autoImplicit false

namespace DeviceGraph.Json

/-- What a value must look like. Records are named, so that one can hold another of its
kind. -/
inductive Form
  | any
  | string
  | optional (form : Form)
  | list (item : Form)
  | dict (value : Form)
  | record (name : String)
  deriving DecidableEq, Repr

structure Field where
  name : String
  form : Form
  required : Bool := false
  deriving DecidableEq, Repr

/-- The fields of records by the names of the records. -/
abbrev Layouts := String → List Field

def recordName (name : String) : String := "struct " ++ name

def recordSize (name : String) (fields : Nat) : String :=
  recordName name ++ " with " ++ toString fields ++ (if fields = 1 then " element" else " elements")

end DeviceGraph.Json
