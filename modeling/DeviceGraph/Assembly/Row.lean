import DeviceGraph.Error
import DeviceGraph.Node.Json

/-!
# Rows of an answer

The engine answers with one value a row. A projection row holds a root vertex
with the edges and vertices around it and the paths that say which edge reaches
which vertex. A tagged row is either a vertex or an entity related to one.
-/

set_option autoImplicit false

namespace DeviceGraph

/-- The properties of a vertex as the engine returns them. -/
abbrev Properties := Dict Json

/-- One hop from the root: the edge taken and the vertex it reaches. -/
structure PathRow where
  edge : String
  vertex : String
  deriving DecidableEq

/-- An edge with the vertex it points at and the one it comes from. -/
structure EdgeRow where
  id : String
  label : String
  head : String
  origin : String := ""
  deriving DecidableEq

/-- A root vertex, its surroundings, and the paths between them. -/
structure Projection where
  object : Properties
  paths : List PathRow := []
  pathsIn : List PathRow := []
  pathsOut : List PathRow := []
  edges : List EdgeRow := []
  vertices : List Properties := []

structure RelatedRow where
  owner : String
  direction : Direction
  edge : EdgeRow
  vertex : Properties

inductive Row
  | vertex (properties : Properties)
  | related (row : RelatedRow)

/-- What the engine stores as the labels and the type chain of a vertex. -/
structure LabelsRow where
  labels : List String := []
  chain : Option String := none
  deriving DecidableEq

def PathRow.ofJson? (j : Json) : Option PathRow := do
  let r ← j.record? ["edge", "vertex"]
  return {
    edge := ← r.required "edge" Json.string?
    vertex := ← r.required "vertex" Json.string? }

def EdgeRow.ofJson? (j : Json) : Option EdgeRow := do
  let r ← j.record? ["id", "label", "inV", "outV"]
  return {
    id := ← r.required "id" Json.string?
    label := ← r.required "label" Json.string?
    head := ← r.required "inV" Json.string?
    origin := ← r.defaulted "outV" "" Json.string? }

def Projection.ofJson? (j : Json) : Option Projection := do
  let r ← j.record? ["object", "paths", "pathsIn", "pathsOut", "Es", "Vs"]
  return {
    object := ← r.required "object" Json.dict?
    paths := ← r.defaulted "paths" [] (Json.list? PathRow.ofJson?)
    pathsIn := ← r.defaulted "pathsIn" [] (Json.list? PathRow.ofJson?)
    pathsOut := ← r.defaulted "pathsOut" [] (Json.list? PathRow.ofJson?)
    edges := ← r.defaulted "Es" [] (Json.list? EdgeRow.ofJson?)
    vertices := ← r.defaulted "Vs" [] (Json.list? Json.dict?) }

def RelatedRow.read? (direction? : Json → Option Direction) (j : Json) : Option RelatedRow := do
  let r ← j.record? ["owner", "dir", "e", "vProps"]
  return {
    owner := ← r.required "owner" Json.string?
    direction := ← r.required "dir" direction?
    edge := ← r.required "e" EdgeRow.ofJson?
    vertex := ← r.required "vProps" Json.dict? }

def RelatedRow.ofJson? (j : Json) : Option RelatedRow := read? Direction.ofJson? j

def Row.ofTag? (tag : String) (fields : Json) : Option Row :=
  if tag = "vertex" then do
    let r ← fields.record? ["props"]
    return .vertex (← r.required "props" Json.dict?)
  else if tag = "related" then (RelatedRow.read? Direction.ofTagged? fields).map .related
  else none

/-- The tag is the member `kind` of an object, or the first item of an array. -/
def Row.ofJson? : Json → Option Row
  | .object members =>
    match Entries.get? "kind" members with
    | some (.string tag) => ofTag? tag (.object members)
    | _ => none
  | .array (.string tag :: rest) => ofTag? tag (.array rest)
  | _ => none

def LabelsRow.ofJson? (j : Json) : Option LabelsRow := do
  let r ← j.record? ["labels", "chain"]
  return {
    labels := ← r.defaulted "labels" [] (Json.list? Json.string?)
    chain := ← r.optional "chain" Json.string? true }

def readRow {α : Type} (read : Json → Option α) (row : Json) : Except GraphError α :=
  match read row with
  | some value => .ok value
  | none => .error (.unreadable .malformed)

end DeviceGraph
