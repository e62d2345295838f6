import DeviceGraph.Statement.Basic
import DeviceGraph.Identity
import DeviceGraph.Node.Basic
import DeviceGraph.Relations

/-!
# Vertices and edges in statements

How an entity is found, created and linked. A vertex is found by its id under
the label of the category that the id names. It is created with its types as
labels, its type chain as a property, and its attributes, among them its natural
key. Every new edge has an id of its own.
-/

set_option autoImplicit false

namespace DeviceGraph

def idProperty : String := "id"

def labelProperty : String := "label"

/-- The relation from a component to its device. -/
def componentRelation : String := "component_of"

/-- The relation from a group to the group above it. -/
def parentRelation : String := "parent"

def componentIdentifier : Identifier := ⟨componentRelation, by decide⟩

def parentIdentifier : Identifier := ⟨parentRelation, by decide⟩

/-- Whether a property is written by the library and never by a caller. -/
def isReserved (key : String) : Bool := key = idProperty || key = labelProperty

/-- The ids of the edges that a statement creates, by the number of names made before. -/
abbrev EdgeIds := Nat → String

namespace Statement

/-- A pattern for the vertex with an id, which is bound to a new parameter. -/
def vertex (s : Statement) (var vertexId : String) :
    Except GraphError (Statement × VertexPattern) := do
  let (category, _) ← liftDomain (Identity.decode vertexId)
  let (s, slot) := s.bindFresh "vid" (.string vertexId)
  return (s, ⟨var, category.identifier, slot⟩)

def bindEdgeId (s : Statement) (ids : EdgeIds) : Statement × String :=
  s.bindFresh "eid" (.string (ids s.issued))

/-- The labels of a new vertex: its types, each once, among them the label of its category. -/
def vertexLabels (node : Node) (category : Category) (vertexId : String) :
    Except GraphError (List Identifier) :=
  let types := (node.types ++ [category.label]).eraseDups
  if types.length < 2 then .error (.domain (.invalidLabels vertexId types))
  else types.mapM Identifier.of

def creationProperties (node : Node) (keyProperty : String) : Dict Json :=
  (node.attributes.filter fun key value => !value.isNull && !isReserved key).insert keyProperty
    (.string node.id)

def createVertex (s : Statement) (var vertexId : String) (node : Node) (category : Category)
    (keyProperty : String) : Except GraphError Statement := do
  let labels ← vertexLabels node category vertexId
  let (s, idSlot) := s.bindFresh "id" (.string vertexId)
  let (s, chainSlot) := s.bindFresh "label" (.string node.typeChain)
  let (s, propsSlot) := s.bindFresh "props" (.ofDict (creationProperties node keyProperty))
  return (s.push (.createVertex var labels idSlot chainSlot)).push (.mergeProperties var propsSlot)

def createEdge (s : Statement) (ids : EdgeIds) (origin : String) (relation : Identifier)
    (head : String) : Statement :=
  let (s, slot) := s.bindEdgeId ids
  s.push (.createEdge ⟨origin, relation, slot, head⟩)

/-- Creates an edge between a new vertex and another one, if that one exists. -/
def linkIfFound (s : Statement) (ids : EdgeIds) (var : String) (direction : Direction)
    (relation otherId : String) : Except GraphError Statement := do
  let relation ← Identifier.of relation
  let other := "o" ++ decimalText s.params.size
  let (s, pattern) ← s.vertex other otherId
  let (s, slot) := s.bindEdgeId ids
  let edge : EdgePattern := match direction with
    | .incoming => ⟨other, relation, slot, var⟩
    | _ => ⟨var, relation, slot, other⟩
  return ((s.push (.keep var)).push (.findOptional pattern)).push (.createEdgeIfFound other edge)

/-- Links a new vertex to every declared entity, whose ids come from `encode`. -/
def linkAll (ids : EdgeIds) (var : String) (encode : String → Except DomainError String) :
    Statement → List (Direction × String × String) → Except GraphError Statement
  | s, [] => .ok s
  | s, (direction, relation, key) :: rest => do
    let otherId ← liftDomain (encode key)
    let s ← s.linkIfFound ids var direction relation otherId
    linkAll ids var encode s rest

/-! ## Projections -/

/-- The id of an edge, or the engine's own number if it has none. -/
def edgeIdText : String := "coalesce(e.id, toString(id(e)))"

/-- An edge as a row names it: its head under `inV`, its origin under `outV`. -/
def edgeProjection : String :=
  "\x7bid: " ++ edgeIdText ++ ", label: type(e), inV: endNode(e).id, outV: startNode(e).id\x7d"

def pathProjection : String := "\x7bedge: " ++ edgeIdText ++ ", vertex: n.id\x7d"

/-- A list without repetitions, first occurrences kept. -/
def distinctItems (list : String) : String :=
  "reduce(acc = [], x IN " ++ list ++ " | CASE WHEN x IN acc THEN acc ELSE acc + [x] END)"

def labelled (var : String) : Option String → Except GraphError (List Piece)
  | none => .ok [.text var]
  | some label => do
    let identifier ← Identifier.of label
    return [.text (var ++ ":"), .name identifier]

/-- How an edge is drawn between two vertices: what stands in front of it and behind it. -/
def arrow : Direction → String × String
  | .incoming => ("<-[", "]-(")
  | .outgoing => ("-[", "]->(")
  | .both => ("-[", "]-(")

/-- Edges from a vertex to others, of a relation and with a label if given. The vertex, the
edges and the others have variables. -/
def edgePattern (direction : Direction) (origin edge : String) (relation : Option String)
    (target : String) (label : Option String) : Except GraphError (List Piece) := do
  let edge ← labelled edge relation
  let target ← labelled target label
  let (before, after) := arrow direction
  return .text ("(" ++ origin ++ ")" ++ before) :: edge ++ .text after :: target ++ [.text ")"]

/-- Edges `e` from a vertex to its neighbours `n`. -/
def neighbourPattern (direction : Direction) (root : String) (relation label : Option String) :
    Except GraphError (List Piece) :=
  edgePattern direction root "e" relation "n" label

end Statement

end DeviceGraph
