import DeviceGraph.Statement.Identifier
import DeviceGraph.Json.Printer

/-!
# Statements

A statement is a list of clauses and the values of its parameters. Clauses that
find or change vertices and edges say so in their form; a clause that only reads
is written out in pieces of fixed text, identifiers and parameter names. Values
never enter the text: they are bound under parameter names, most of them made
from a stem and the number of names made before.
-/

set_option autoImplicit false

namespace DeviceGraph

inductive Access
  | read
  | write
  deriving DecidableEq, Repr

inductive Piece
  | text (text : String)
  | name (identifier : Identifier)
  | slot (parameter : String)
  deriving DecidableEq

def Piece.render : Piece → String
  | .text t => t
  | .name i => i.quoted
  | .slot p => "$" ++ p

def renderPieces (pieces : List Piece) : String := (pieces.map Piece.render).foldl (· ++ ·) ""

/-- Lists of pieces with a fixed text between neighbours. -/
def joinPieces (separator : String) : List (List Piece) → List Piece
  | [] => []
  | [pieces] => pieces
  | pieces :: next :: rest => pieces ++ .text separator :: joinPieces separator (next :: rest)

/-- A vertex found by its id among those with a label. -/
structure VertexPattern where
  var : String
  label : Identifier
  slot : String
  deriving DecidableEq

def VertexPattern.pieces (v : VertexPattern) : List Piece :=
  [.text ("(" ++ v.var ++ ":"), .name v.label, .text " \x7bid: ", .slot v.slot, .text "\x7d)"]

structure EdgePattern where
  origin : String
  relation : Identifier
  slot : String
  head : String
  deriving DecidableEq

def EdgePattern.pieces (e : EdgePattern) : List Piece :=
  [.text ("(" ++ e.origin ++ ")-[:"), .name e.relation, .text " \x7bid: ", .slot e.slot,
    .text ("\x7d]->(" ++ e.head ++ ")")]

inductive Clause
  | free (text : String)
  /-- A reading clause, written out. -/
  | written (pieces : List Piece)
  | findVertices (vertices : List VertexPattern)
  | findOptional (vertex : VertexPattern)
  | findEdges (origin : VertexPattern) (relation : Identifier) (head : VertexPattern)
  /-- Goes on with one variable only. -/
  | keep (var : String)
  | createVertex (var : String) (labels : List Identifier) (idSlot chainSlot : String)
  /-- Writes every property of a parameter. -/
  | mergeProperties (var slot : String)
  | createEdge (edge : EdgePattern)
  /-- Creates an edge if the other vertex was found. -/
  | createEdgeIfFound (other : String) (edge : EdgePattern)
  /-- Writes single properties, each from its own parameter. -/
  | setProperties (var : String) (items : List (Identifier × String))
  | removeProperties (var : String) (properties : List Identifier)
  /-- Deletes the edges that were found, each once. -/
  | deleteEdges
  | deleteVertices (vars : List String)
  deriving DecidableEq

namespace Clause

def pieces : Clause → List Piece
  | free t => [.text t]
  | written ps => ps
  | findVertices vertices => .text "MATCH " :: joinPieces ", " (vertices.map (·.pieces))
  | findOptional vertex => .text "OPTIONAL MATCH " :: vertex.pieces
  | findEdges origin relation head =>
    .text "MATCH " :: origin.pieces ++ [.text "-[e:", .name relation, .text "]->"] ++ head.pieces
  | keep var => [.text ("WITH " ++ var)]
  | createVertex var labels idSlot chainSlot =>
    .text ("CREATE (" ++ var ++ ":") :: joinPieces ":" (labels.map ([.name ·])) ++
      [.text " \x7bid: ", .slot idSlot, .text ", label: ", .slot chainSlot, .text "\x7d)"]
  | mergeProperties var slot => [.text ("SET " ++ var ++ " += "), .slot slot]
  | createEdge edge => .text "CREATE " :: edge.pieces
  | createEdgeIfFound other edge =>
    .text ("FOREACH (_ IN CASE WHEN " ++ other ++ " IS NULL THEN [] ELSE [1] END | CREATE ") ::
      edge.pieces ++ [.text ")"]
  | setProperties var items =>
    .text "SET " :: joinPieces ", " (items.map fun item =>
      [.text (var ++ "."), .name item.1, .text " = ", .slot item.2])
  | removeProperties var properties =>
    .text "REMOVE " :: joinPieces ", " (properties.map fun property =>
      [.text (var ++ "."), .name property])
  | deleteEdges => [.text "WITH DISTINCT e\nDELETE e"]
  | deleteVertices vars => [.text ("DETACH DELETE " ++ Text.join ", " vars)]

def text (c : Clause) : String := renderPieces c.pieces

end Clause

/-- Clauses, and the values that were bound to the parameters that they name. -/
structure Statement where
  access : Access
  clauses : List Clause := []
  /-- Names with their values, the one bound last in front. -/
  bindings : List (String × Json) := []
  /-- How many parameter names have been made. -/
  issued : Nat := 0
  deriving DecidableEq

namespace Statement

def ofText (access : Access) (text : String) : Statement := { access, clauses := [.free text] }

def push (s : Statement) (clause : Clause) : Statement :=
  { s with clauses := s.clauses ++ [clause] }

def bind (s : Statement) (name : String) (value : Json) : Statement :=
  { s with bindings := (name, value) :: s.bindings }

/-- Binds a parameter whose name is the stem and the number of names made so far. -/
def bindFresh (s : Statement) (stem : String) (value : Json) : Statement × String :=
  let name := stem ++ decimalText s.issued
  ({ s.bind name value with issued := s.issued + 1 }, name)

/-- The parameters; of two values that were bound to one name the later stays. -/
def params (s : Statement) : Dict Json :=
  s.bindings.foldr (fun binding params => params.insert binding.1 binding.2) .empty

def param? (s : Statement) (name : String) : Option Json := s.params.get? name

/-- The clauses a line each; a line break goes in front of a clause once there is text. -/
def text (s : Statement) : String :=
  s.clauses.foldl
    (fun line clause => if line = "" then clause.text else line ++ "\n" ++ clause.text) ""

end Statement

end DeviceGraph
