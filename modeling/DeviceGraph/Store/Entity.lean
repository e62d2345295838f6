import DeviceGraph.Engine
import DeviceGraph.Assembly.Node
import DeviceGraph.Statement.Entity
import DeviceGraph.Store.Page

/-!
# Operations on any entity

What can be done with an entity whose vertex id is known: reading its labels,
listing what is related to it, changing and deleting it, and drawing and
removing edges. Each operation is one statement; when the statement cannot be
made, no session is opened.
-/

set_option autoImplicit false

namespace DeviceGraph

/-- Which related entities are asked for. The relation `*` stands for any
relation, and then the template does not count. -/
structure RelatedQuery where
  relation : String
  direction : Direction
  template : Option String := none
  filter : Dict Json := .empty
  page : Option Page := none

namespace Store

/-! ## Labels -/

def labelsStatement (vertexId : String) : Except GraphError Statement := do
  let (s, root) ← ({ access := .read } : Statement).vertex "v" vertexId
  return (s.push (.findVertices [root])).push
    (.written [.text "RETURN \x7blabels: labels(v), chain: v.label\x7d AS result"])

/-- The types of a vertex: its stored chain if it holds two types, else the labels
of the engine, of which a single one may be read as a chain. -/
def resolveLabels (vertexId : String) (row : LabelsRow) (legacy : Bool) :
    Except GraphError (List String) :=
  let stored := (row.chain.map TypeChain.split).getD []
  if 2 ≤ stored.length then .ok stored
  else
    let labels := match row.labels with
      | [label] => if legacy then TypeChain.split label else [label]
      | labels => labels
    if labels.length < 2 then .error (.domain (.invalidLabels vertexId labels)) else .ok labels

/-- Notes labels that are too few before the error is raised. -/
def noteIncomplete (vertexId : String) (result : Except GraphError (List String)) :
    Session GraphError (List String) :=
  match result with
  | .error (.domain (.invalidLabels id labels)) => do
    Session.note (.incompleteLabels vertexId labels)
    throw (.domain (.invalidLabels id labels))
  | result => Session.ofExcept result

def labels (vertexId : String) (legacy : Bool) : Session GraphError (Option (List String)) := do
  let s ← Session.ofExcept (labelsStatement vertexId)
  match ← Session.run "relations.get_labels" s with
  | [] => return none
  | first :: _ =>
    let row ← Session.ofExcept (readRow LabelsRow.ofJson? first)
    return some (← noteIncomplete vertexId (resolveLabels vertexId row legacy))

/-! ## Related entities -/

/-- Conditions on the properties of `n`, one for each entry; values are bound. -/
def filterPredicates (s : Statement) :
    List (String × Json) → Except GraphError (Statement × List (List Piece))
  | [] => .ok (s, [])
  | (key, value) :: rest => do
    let property ← Identifier.of key
    if value.isNull then
      let (s, predicates) ← filterPredicates s rest
      return (s, [.text "n.", .name property, .text " IS NULL"] :: predicates)
    else
      let (s, slot) := s.bindFresh "f" value
      let (s, predicates) ← filterPredicates s rest
      return (s, [.text "n.", .name property, .text " = ", .slot slot] :: predicates)

def slicePieces (s : Statement) : Option Page → Statement × List Piece
  | none => (s, [])
  | some page =>
    ((s.bind "offset" (.ofNat page.offset)).bind "end" (.ofNat page.last),
      [.text "[", .slot "offset", .text "..", .slot "end", .text "]"])

/-- Reads a root vertex and a page of the distinct entities related to it. -/
def relatedStatement (rootId : String) (q : RelatedQuery) : Except GraphError Statement := do
  let (s, root) ← ({ access := .read } : Statement).vertex "root" rootId
  let any : Bool := q.relation = "*"
  let relation := if any then none else some q.relation
  let template := if any then none else q.template.filter (· ≠ "")
  let pattern ← Statement.neighbourPattern q.direction "root" relation template
  let (s, predicates) ← filterPredicates s q.filter.entries
  let condition :=
    if predicates = [] then [] else .text " WHERE " :: joinPieces " AND " predicates
  let (s, slice) := slicePieces s q.page
  let s := s.push (.findVertices [root])
  let s := s.push (.written (.text "WITH root, [" :: pattern ++ condition ++
    [.text " | n] AS related"]))
  let s := s.push (.written (.text ("WITH root, " ++ Statement.distinctItems "related") :: slice ++
    [.text " AS page"]))
  return s.push (.written (
    .text ("RETURN \x7b\n  object: properties(root),\n  pathsIn: [(root)<-[e]-(n) | " ++
      Statement.pathProjection ++ "],\n  pathsOut: [(root)-[e]->(n) | " ++
      Statement.pathProjection ++ "],\n  Es: [") :: pattern ++
    [.text (" WHERE n IN page | " ++ Statement.edgeProjection ++
      "],\n  Vs: [n IN page | properties(n)]\n\x7d AS result")]))

/-- A root with the related entities linked to it, none if the root does not exist. -/
def related (rootId : String) (q : RelatedQuery) : Session GraphError (Option Node) := do
  let s ← Session.ofExcept (relatedStatement rootId q)
  match ← Session.run "relations.list_related" s with
  | [] => return none
  | first :: _ => return some (← Session.ofExcept (Assembly.projectionOfRow first))

/-! ## Edges -/

/-- Origin and head of an edge that an entity has with another one. -/
def endpoints (entity : String) (direction : Direction) (other : String) :
    Except GraphError (String × String) :=
  match direction with
  | .outgoing => .ok (entity, other)
  | .incoming => .ok (other, entity)
  | .both => .error .undirectedEdge

def attachStatement (ids : EdgeIds) (entity relation : String) (direction : Direction)
    (other : String) : Except GraphError Statement := do
  let (originId, headId) ← endpoints entity direction other
  let (s, origin) ← ({ access := .write } : Statement).vertex "source" originId
  let (s, head) ← s.vertex "target" headId
  let relation ← Identifier.of relation
  let s := s.bind "edge_id" (.string (ids s.issued))
  return (s.push (.findVertices [origin, head])).push
    (.createEdge ⟨"source", relation, "edge_id", "target"⟩)

def attach (entity relation : String) (direction : Direction) (other : String) :
    Session GraphError Unit := do
  let s ← Session.ofExcept (attachStatement (← Session.edgeIds) entity relation direction other)
  let _ ← Session.run "relations.attach" s

/-- Removes every edge of a relation between two entities. -/
def detachStatement (entity relation : String) (direction : Direction) (other : String) :
    Except GraphError Statement := do
  let (originId, headId) ← endpoints entity direction other
  let (s, origin) ← ({ access := .write } : Statement).vertex "source" originId
  let (s, head) ← s.vertex "target" headId
  let relation ← Identifier.of relation
  return (s.push (.findEdges origin relation head)).push .deleteEdges

def detach (entity relation : String) (direction : Direction) (other : String) :
    Session GraphError Unit := do
  let s ← Session.ofExcept (detachStatement entity relation direction other)
  let _ ← Session.run "relations.detach" s

/-! ## Changes -/

/-- What an update writes and what it removes, reserved properties left out. -/
structure Changes where
  sets : List (Identifier × String) := []
  removes : List Identifier := []

/-- Binds the values of an update; `null` removes a property. -/
def bindChanges (s : Statement) :
    List (String × Json) → Except GraphError (Statement × Changes)
  | [] => .ok (s, {})
  | (key, value) :: rest =>
    if isReserved key then bindChanges s rest
    else do
      let property ← Identifier.of key
      if value.isNull then
        let (s, changes) ← bindChanges s rest
        return (s, { changes with removes := property :: changes.removes })
      else
        let (s, slot) := s.bindFresh "p" value
        let (s, changes) ← bindChanges s rest
        return (s, { changes with sets := (property, slot) :: changes.sets })

/-- Changes the properties of a vertex; none if there is nothing to change. -/
def updateStatement (vertexId : String) (attributes : Dict Json) :
    Except GraphError (Option Statement) := do
  let (s, root) ← ({ access := .write } : Statement).vertex "v" vertexId
  let (s, changes) ← bindChanges s attributes.entries
  if changes.sets = [] ∧ changes.removes = [] then return none
  let s := s.push (.findVertices [root])
  let s := if changes.sets = [] then s else s.push (.setProperties "v" changes.sets)
  return if changes.removes = [] then s else s.push (.removeProperties "v" changes.removes)

/-- Changes the properties of a vertex, and notes every reserved one that it leaves alone. -/
def update (vertexId : String) (attributes : Dict Json) : Session GraphError Unit := do
  let statement ← Session.ofExcept (updateStatement vertexId attributes)
  for key in attributes.keys.filter isReserved do
    Session.note (.reservedProperty vertexId key)
  match statement with
  | none => return
  | some s => let _ ← Session.run "relations.update_vertex" s

def deleteStatement (vertexId : String) : Except GraphError Statement := do
  let (s, root) ← ({ access := .write } : Statement).vertex "v" vertexId
  return (s.push (.findVertices [root])).push (.deleteVertices ["v"])

def delete (vertexId : String) : Session GraphError Unit := do
  let s ← Session.ofExcept (deleteStatement vertexId)
  let _ ← Session.run "relations.delete_vertex" s

end Store

end DeviceGraph
