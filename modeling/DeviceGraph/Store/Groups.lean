import DeviceGraph.Store.Entity

/-!
# Groups

Groups form a hierarchy: a group points at the group above it, and the group `/`
stands on top. A group is read with the groups related to it in any other way;
every row says which group it belongs to. A group is created under the group
that its attributes name, and not at all if that group does not exist.
-/

set_option autoImplicit false

namespace DeviceGraph.Store.Groups

def keyProperty : String := "groupPath"

def parentProperty : String := "parentPath"

def rootPath : String := "/"

/-! ## Reading -/

def vertexRow : String := "\x7bkind: 'vertex', props: properties(main)\x7d"

/-- Reads the groups related to a group in one direction, the group above apart. -/
def relatedPieces (direction : Direction) : Except GraphError (List Piece) := do
  let pattern ← Statement.neighbourPattern direction "main" none (some Category.group.label)
  return .text "  WITH main\n  MATCH " :: pattern ++ [.text " WHERE type(e) <> ", .slot "parent",
    .text ("\n  RETURN \x7bkind: 'related', owner: main.id, dir: '" ++ direction.text ++
      "', e: " ++ Statement.edgeProjection ++ ", vProps: properties(n)\x7d AS result")]

def getStatement (groups : List String) (withRelated : Bool) : Except GraphError Statement := do
  let ids ← liftDomain (groups.mapM Identity.groupId)
  let s := ({ access := .read } : Statement).bind "ids" (.ofStrings ids)
  let s := s.push (.written [.text "MATCH (main:", .name Category.group.identifier,
    .text ") WHERE main.id IN ", .slot "ids"])
  if withRelated then
    let outgoing ← relatedPieces .outgoing
    let incoming ← relatedPieces .incoming
    return (s.bind "parent" (.string parentRelation)).push (.written
      (.text ("CALL \x7b\n  WITH main\n  RETURN " ++ vertexRow ++ " AS result\n  UNION ALL\n") ::
        outgoing ++ .text "\n  UNION ALL\n" :: incoming ++ [.text "\n\x7d\nRETURN result"]))
  else return s.push (.written [.text ("RETURN " ++ vertexRow ++ " AS result")])

/-- The groups that exist, in the order of the engine. -/
def getAll (groups : List String) (withRelated : Bool) : Session GraphError (List Node) := do
  let s ← Session.ofExcept (getStatement groups withRelated)
  let answers ← Session.run "groups.get" s
  let rows ← Session.ofExcept (answers.mapM (readRow Row.ofJson?))
  Session.ofExcept (Assembly.nodes rows)

def get (group : String) (withRelated : Bool) : Session GraphError (Option Node) := do
  return (← getAll [group] withRelated).head?

def labels (group : String) (legacy : Bool) : Session GraphError (Option (List String)) := do
  Store.labels (← Session.ofDomain (Identity.groupId group)) legacy

def related (group : String) (q : RelatedQuery) : Session GraphError (Option Node) := do
  Store.related (← Session.ofDomain (Identity.groupId group)) q

/-- Reads a group and the groups above it, the nearest first. -/
def ancestorsStatement (group : String) : Except GraphError Statement := do
  let vertexId ← liftDomain (Identity.groupId group)
  let (s, root) ← ({ access := .read } : Statement).vertex "g" vertexId
  return (s.push (.findVertices [root])).push (.written
    [.text "OPTIONAL MATCH p = (g)-[:", .name parentIdentifier, .text "*1..]->(a:",
      .name Category.group.identifier,
      .text (")\nWITH g, a, min(length(p)) AS depth\nORDER BY depth\n" ++
        "WITH g, collect(a) AS ancestors\nUNWIND [g] + ancestors AS x\n" ++
        "RETURN properties(x) AS result")])

def ancestors (group : String) : Session GraphError (List Node) := do
  let s ← Session.ofExcept (ancestorsStatement group)
  let rows ← Session.run "groups.list_parent_groups" s
  Session.ofExcept (rows.mapM Assembly.nodeOfRow)

/-! ## Creating -/

def parentPath? (group : Node) : Option String :=
  match group.attributes.get? parentProperty with
  | some (.string path) => if group.id = rootPath then none else some path
  | _ => none

def findParent (s : Statement) : Option String → Except GraphError Statement
  | none => .ok s
  | some path => do
    let parentId ← liftDomain (Identity.groupId path)
    let (s, pattern) ← s.vertex "parent" parentId
    return s.push (.findVertices [pattern])

/-- Creates a group under the group above it, with its links; gives its vertex id too. -/
def createStatement (ids : EdgeIds) (group : Node) (groups : Relations) :
    Except GraphError (String × Statement) := do
  let vertexId ← liftDomain (Identity.groupId group.id)
  let parent := parentPath? group
  let s ← findParent { access := .write } parent
  let s ← s.createVertex "v" vertexId group .group keyProperty
  let s := if parent.isSome then s.createEdge ids "v" parentIdentifier "parent" else s
  let s ← Statement.linkAll ids "v" Identity.groupId s groups.entries
  return (vertexId, s)

def create (group : Node) (groups : Relations) : Session GraphError String := do
  let (vertexId, s) ← Session.ofExcept (createStatement (← Session.edgeIds) group groups)
  let _ ← Session.run "groups.create" s
  return vertexId

/-! ## Changing, deleting and linking -/

def update (group : Node) : Session GraphError Unit := do
  Store.update (← Session.ofDomain (Identity.groupId group.id)) group.attributes

def delete (group : String) : Session GraphError Unit := do
  Store.delete (← Session.ofDomain (Identity.groupId group))

def attach (group relation other : String) : Session GraphError Unit := do
  let origin ← Session.ofDomain (Identity.groupId group)
  let head ← Session.ofDomain (Identity.groupId other)
  Store.attach origin relation .outgoing head

def detach (group relation other : String) : Session GraphError Unit := do
  let origin ← Session.ofDomain (Identity.groupId group)
  let head ← Session.ofDomain (Identity.groupId other)
  Store.detach origin relation .outgoing head

end DeviceGraph.Store.Groups
