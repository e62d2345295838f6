import DeviceGraph.Assembly.Row
import DeviceGraph.Identity
import DeviceGraph.Statement.Entity

/-!
# Nodes from rows

A vertex becomes a node when its id can be decoded and its type chain holds at
least two types. The engine may return a property as a list of one value, which
stands for that value. Around a root vertex every edge is linked once; in
tagged rows every related row is linked to the first node that owns it.
-/

set_option autoImplicit false

namespace DeviceGraph.Assembly

/-- A list of one value stands for the value; longer lists are kept. -/
def unwrap : Json → Json
  | .array [value] => value
  | value => value

def stringProperty? (properties : Properties) (key : String) : Option String :=
  ((properties.get? key).map unwrap).bind Json.string?

def node (properties : Properties) : Except GraphError Node :=
  match stringProperty? properties idProperty with
  | none => .error (.unreadable .noId)
  | some vertexId => do
    let (decoded, keys) ← liftDomain (Identity.decode vertexId)
    let types := TypeChain.split ((stringProperty? properties labelProperty).getD "")
    if types.length < 2 then .error (.domain (.invalidLabels vertexId types))
    else return {
      id := keys.getLastD ""
      types
      category := (Category.ofTypes? types).getD decoded
      attributes := (properties.filter fun key _ => !isReserved key).map unwrap
      vertexId := some vertexId }

def nodeOfRow (row : Json) : Except GraphError Node := do
  node (← readRow Json.dict? row)

/-- The last edge with an id. -/
def edge? (edges : List EdgeRow) (id : String) : Option EdgeRow :=
  edges.reverse.find? (·.id = id)

/-- The last vertex with an id. -/
def vertex? (vertices : List Properties) (id : String) : Option Properties :=
  vertices.reverse.find? (stringProperty? · idProperty = some id)

/-- Links what the paths reach from a node with the vertex id `own`. An edge that
was seen before is passed over, and so is a path whose edge or vertex is not
listed. An edge that points at the node comes in, any other goes out. -/
def linkPaths (own : String) (edges : List EdgeRow) (vertices : List Properties) :
    List String → List PathRow → Node → Except GraphError Node
  | _, [], n => .ok n
  | seen, path :: rest, n =>
    if seen.contains path.edge then linkPaths own edges vertices seen rest n
    else match edge? edges path.edge, vertex? vertices path.vertex with
      | some edge, some vertex => do
        let other ← node vertex
        let direction : Direction := if edge.head = own then .incoming else .outgoing
        linkPaths own edges vertices (path.edge :: seen) rest (n.addLink direction edge.label other)
      | _, _ => linkPaths own edges vertices (path.edge :: seen) rest n

def linkSurroundings (n : Node) (row : Projection) : Except GraphError Node :=
  linkPaths (n.vertexId.getD "") row.edges row.vertices []
    (row.paths ++ row.pathsIn ++ row.pathsOut) n

def projection (row : Projection) : Except GraphError Node := do
  linkSurroundings (← node row.object) row

def projectionOfRow (row : Json) : Except GraphError Node := do
  projection (← readRow Projection.ofJson? row)

def linkRelated (n : Node) (row : RelatedRow) : Except GraphError Node := do
  let other ← node row.vertex
  return n.addLink row.direction row.edge.label other

/-- Links a related entity to the first node that owns it; without one the row
changes nothing. -/
def linkToOwner (row : RelatedRow) : List Node → Except GraphError (List Node)
  | [] => .ok []
  | n :: rest =>
    if n.vertexId = some row.owner then return (← linkRelated n row) :: rest
    else return n :: (← linkToOwner row rest)

def vertexRows (rows : List Row) : List Properties :=
  rows.filterMap fun
    | .vertex properties => some properties
    | .related _ => none

def relatedRows (rows : List Row) : List RelatedRow :=
  rows.filterMap fun
    | .vertex _ => none
    | .related row => some row

/-- The nodes of the vertex rows in their order, with the related rows linked to them. -/
def nodes (rows : List Row) : Except GraphError (List Node) := do
  let found ← (vertexRows rows).mapM node
  (relatedRows rows).foldlM (fun found row => linkToOwner row found) found

end DeviceGraph.Assembly
