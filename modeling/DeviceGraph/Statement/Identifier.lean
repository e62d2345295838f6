import DeviceGraph.Error

/-!
# Identifiers in statements

Labels, relation names and property names stand in a statement between
backticks, with every backtick of the name doubled. They are the only part of a
statement that comes from its caller; a name must not be empty.
-/

set_option autoImplicit false

namespace DeviceGraph

structure Identifier where
  name : String
  nonempty : name ≠ ""
  deriving DecidableEq

namespace Identifier

def of (name : String) : Except GraphError Identifier :=
  if h : name = "" then .error (.invalidIdentifier name) else .ok ⟨name, h⟩

def escape (name : List Char) : List Char :=
  name.flatMap fun c => if c = '\x60' then ['\x60', '\x60'] else [c]

def quoted (i : Identifier) : String :=
  String.ofList ('\x60' :: escape i.name.toList ++ ['\x60'])

end Identifier

def Category.identifier (c : Category) : Identifier := ⟨c.label, by cases c <;> decide⟩

end DeviceGraph
