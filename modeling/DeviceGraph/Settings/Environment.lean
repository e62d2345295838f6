import DeviceGraph.Settings.Path

/-!
# Settings in the environment

A variable whose name begins with `ASSETGRAPH__`, in either case, writes its
value at the path that the rest of its name says, with `__` for a point between
keys. A value that looks like a truth value or a number is read as one.
-/

set_option autoImplicit false

namespace DeviceGraph.Setting

def variablePrefix : List Char := "assetgraph__".toList

def ofVariable (value : String) : Setting :=
  let word := Text.lowerCase value
  if word = "true" then .bool true
  else if word = "false" then .bool false
  else match Number.signed? value, Number.real? value with
    | some n, _ => .whole n
    | none, some x => .real x
    | none, none => .text value

/-- A text with a point for every pair of underscores. -/
def dotted : List Char → List Char
  | '_' :: '_' :: rest => '.' :: dotted rest
  | c :: rest => c :: dotted rest
  | [] => []

/-- The assignment that a variable makes, none if it has another beginning. -/
def assignmentOfVariable? (name value : String) : Option (List Step × Setting) :=
  let name := (Text.lowerCase name).toList
  if variablePrefix.isPrefixOf name then
    let rest := dotted (name.drop variablePrefix.length)
    some (path (String.ofList rest), ofVariable value)
  else none

end DeviceGraph.Setting
