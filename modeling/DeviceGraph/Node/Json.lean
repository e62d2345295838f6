import DeviceGraph.Node.Basic
import DeviceGraph.Json.Record

/-!
# Nodes in JSON

A node is an object of its fields. Links are grouped by direction and relation
and left out when there are none. The vertex id is not part of this form.
-/

set_option autoImplicit false

namespace DeviceGraph

def Category.ofJson? (j : Json) : Option Category := j.tag?.bind ofLabel?

def Direction.ofJson? (j : Json) : Option Direction := j.tag?.bind ofText?

/-- A direction inside a value that was tagged. -/
def Direction.ofTagged? (j : Json) : Option Direction := j.looseTag?.bind ofText?

namespace Node

mutual

def toJson (n : Node) : Json :=
  match n with
  | ⟨id, types, category, attributes, ⟨incoming, outgoing, both⟩, _⟩ =>
    let head : List (String × Json) :=
      [("attributes", .ofDict attributes), ("category", .string category.label), ("id", .string id)]
    let sides := sideJson "both" both ++ sideJson "in" incoming ++ sideJson "out" outgoing
    let links : List (String × Json) := if sides = [] then [] else [("links", .object sides)]
    .object (head ++ links ++ [("types", .ofStrings types)])

def sideJson (name : String) : Option (List (String × List Node)) → List (String × Json)
  | none => []
  | some side => [(name, .object (relationsJson side))]

def relationsJson : List (String × List Node) → List (String × Json)
  | [] => []
  | (relation, nodes) :: rest => (relation, .array (nodesJson nodes)) :: relationsJson rest

def nodesJson : List Node → List Json
  | [] => []
  | n :: rest => toJson n :: nodesJson rest

end

def fields : List String := ["id", "types", "category", "attributes", "links"]

def ofRecord? (r : Record) : Option Node := do
  return {
    id := ← r.required "id" Json.string?
    types := ← r.required "types" (Json.list? Json.string?)
    category := ← r.required "category" Category.ofJson?
    attributes := ← r.defaulted "attributes" .empty Json.dict? }

mutual

def ofJson? : Json → Option Node
  | .object members => do
    let node ← ((Json.object members).record? fields).bind ofRecord?
    let links ← linksMember? members
    return { node with links }
  | .array items => do
    let node ← ((Json.array items).record? fields).bind ofRecord?
    let links ← linksItem? items
    return { node with links }
  | _ => none

def linksMember? : List (String × Json) → Option (Links Node)
  | [] => some {}
  | (name, value) :: rest => if name = "links" then links? value else linksMember? rest

def linksItem? : List Json → Option (Links Node)
  | [_, _, _, _, value] => links? value
  | _ => some {}

def links? : Json → Option (Links Node)
  | .object members => sides? members
  | _ => none

def sides? : List (String × Json) → Option (Links Node)
  | [] => some {}
  | (name, value) :: rest => do
    let direction ← Direction.ofText? name
    let side ← relations? value
    let links ← sides? rest
    return links.setSide direction side

def relations? : Json → Option (List (String × List Node))
  | .object members => relationEntries? members
  | _ => none

def relationEntries? : List (String × Json) → Option (List (String × List Node))
  | [] => some []
  | (relation, value) :: rest => do
    let nodes ← nodes? value
    let entries ← relationEntries? rest
    return (relation, nodes) :: entries

def nodes? : Json → Option (List Node)
  | .array items => nodeItems? items
  | _ => none

def nodeItems? : List Json → Option (List Node)
  | [] => some []
  | item :: rest => do
    let node ← ofJson? item
    let nodes ← nodeItems? rest
    return node :: nodes

end

end Node

end DeviceGraph
