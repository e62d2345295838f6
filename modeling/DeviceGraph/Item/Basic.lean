import DeviceGraph.Json.Printer
import DeviceGraph.Node.Basic
import DeviceGraph.Relations

/-!
# Between items and nodes

An item names some attributes of a node as fields of its own, and names linked
nodes by their natural keys.
-/

set_option autoImplicit false

namespace DeviceGraph.Item

def putField (attributes : Dict Json) (key : String) : Option String → Dict Json
  | none => attributes
  | some value => attributes.insert key (.string value)

/-- An attribute as the text of a field: a string as it is, anything else but
`null` as its value text. -/
def fieldText? : Option Json → Option String
  | some (.string s) => some s
  | some .null | none => none
  | some value => some value.text

def without (keys : List String) (attributes : Dict Json) : Dict Json :=
  keys.foldl Dict.erase attributes

def linkedNodes (n : Node) (category : Category) : List Node :=
  n.links.targets.filter (·.category = category)

/-- The keys of the linked nodes of a category, by direction and relation. -/
def linkedKeys (n : Node) (category : Category) : Relations :=
  n.links.entries.foldl (fun relations (direction, relation, others) =>
    (others.filter (·.category = category)).foldl
      (fun relations other => relations.add direction relation other.id) relations) .empty

/-- Declared relations as a member of an object, left out when nothing is named. -/
def relationsMember (name : String) (relations : Relations) : List (String × Json) :=
  if relations.isEmpty then [] else [(name, relations.toJson)]

def attributesMember (attributes : Dict Json) : List (String × Json) :=
  if attributes.isEmpty then [] else [("attributes", .ofDict attributes)]

def textMember (name : String) : Option String → List (String × Json)
  | none => []
  | some text => [(name, .string text)]

end DeviceGraph.Item
