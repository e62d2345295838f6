import DeviceGraph.Search.Request
import DeviceGraph.Statement.Entity
import DeviceGraph.Store.Page

/-!
# Searches in statements

A request becomes one reading statement: the types, the group above and every
filter are conditions on a vertex, and all of them must hold. A filter with hops
asks for a path along them whose end passes the comparison. The statement counts
the vertices or returns them in the order of their ids.
-/

set_option autoImplicit false

namespace DeviceGraph.Search

/-- The path along hops, from hop number `i`; a tag tells it apart from other paths. -/
def hopPieces (tag : String) : Nat → List Hop → Except GraphError (List Piece)
  | _, [] => .ok []
  | i, hop :: rest => do
    let relation ← Identifier.of hop.relation
    let (before, after) := match hop.direction with
      | .incoming => ("<-[:", "]-(")
      | _ => ("-[:", "]->(")
    let path ← hopPieces tag (i + 1) rest
    return .text before :: .name relation :: .text (after ++ tag ++ decimalText i ++ ")") :: path

def filterCondition (s : Statement) (op : Operator) (f : Filter) :
    Except GraphError (Statement × List Piece) := do
  let field ← Identifier.of f.field
  let (s, slot) := s.bindFresh "s" f.value
  let compare (var : String) : List Piece :=
    [.text (var ++ "."), .name field, .text (" " ++ op.comparison ++ " "), .slot slot]
  if f.hops = [] then return (s, compare "n")
  else
    let tag := "h" ++ decimalText s.params.size ++ "_"
    let path ← hopPieces tag 0 f.hops
    return (s, .text "EXISTS \x7b MATCH (n)" :: path ++ .text " WHERE " ::
      compare (tag ++ decimalText (f.hops.length - 1)) ++ [.text " \x7d"])

def filterConditions (s : Statement) :
    List (Operator × Filter) → Except GraphError (Statement × List (List Piece))
  | [] => .ok (s, [])
  | (op, f) :: rest => do
    let (s, condition) ← filterCondition s op f
    let (s, conditions) ← filterConditions s rest
    return (s, condition :: conditions)

def typeConditions (types : List String) : Except GraphError (List (List Piece)) :=
  if types = [] then .ok []
  else do
    let labels ← types.mapM Identifier.of
    return [.text "(" :: joinPieces " OR " (labels.map fun label => [.text "n:", .name label]) ++
      [.text ")"]]

def ancestorConditions (s : Statement) :
    Option String → Except GraphError (Statement × List (List Piece))
  | none => .ok (s, [])
  | some path => do
    let ancestorId ← liftDomain (Identity.groupId path)
    return (s.bind "ancestor" (.string ancestorId),
      [[.text "EXISTS \x7b MATCH (n)-[*1..]->(a:", .name Category.group.identifier,
        .text ") WHERE a.id = ", .slot "ancestor", .text " \x7d"]])

def pushPage (s : Statement) (page : Option Page) : Statement :=
  let s := s.push (.written [.text "WITH DISTINCT n\nORDER BY n.id"])
  let s := match page with
    | none => s
    | some page =>
      ((s.bind "offset" (.ofNat page.offset)).bind "count" (.ofNat page.count)).push
        (.written [.text "SKIP ", .slot "offset", .text " LIMIT ", .slot "count"])
  s.push (.written [.text "RETURN properties(n) AS result"])

/-- The statement of a request; a page counts only when entities are asked for. -/
def Request.statement (r : Request) (page : Option Page) : Except GraphError Statement := do
  let types ← typeConditions r.types
  let (s, ancestor) ← ancestorConditions { access := .read } r.ancestorPath
  let (s, filters) ← filterConditions s r.filters.toList
  let conditions := types ++ ancestor ++ filters
  let s := s.push (.written [.text "MATCH (n)"])
  let s := if conditions = [] then s
    else s.push (.written (.text "WHERE " :: joinPieces "\n  AND " conditions))
  return if r.summarize then s.push (.written [.text "RETURN count(DISTINCT n) AS result"])
    else pushPage s page

end DeviceGraph.Search
