import DeviceGraph.Store.Entity

/-!
# Devices and their components

A component is stored under the id of its device and points at the device with
an edge of its own relation. A device is created with its components and its
declared relations in one statement; relations to entities that do not exist are
left out. Deleting a device deletes its components.
-/

set_option autoImplicit false

namespace DeviceGraph

/-- What a device is read with: its components, everything else around it, and
all of its attributes or only some. -/
structure ReadOptions where
  components : Bool := false
  groups : Bool := false
  attributes : Option (List String) := none
  deriving DecidableEq, Repr

namespace Store.Devices

def keyProperty : String := "deviceId"

/-- The properties that are read whichever attributes are asked for. -/
def baseProperties : List String := [idProperty, labelProperty, "state", keyProperty]

/-! ## Reading -/

def rootPieces (options : ReadOptions) : Except GraphError (List Piece) :=
  match options.attributes with
  | none => .ok [.text "properties(v)"]
  | some attributes => do
    let properties ← (baseProperties ++ attributes).eraseDups.mapM Identifier.of
    return .text "v \x7b" :: joinPieces ", " (properties.map ([.text ".", .name ·])) ++
      [.text "\x7d"]

def edgeCondition (s : Statement) (options : ReadOptions) : Statement × List Piece :=
  let condition (comparison : String) : Statement × List Piece :=
    (s.bind "component_of" (.string componentRelation),
      [.text (" WHERE type(e) " ++ comparison ++ " "), .slot "component_of"])
  match options.components, options.groups with
  | true, false => condition "="
  | false, true => condition "<>"
  | _, _ => (s, [])

def getStatement (devices : List String) (options : ReadOptions) : Except GraphError Statement := do
  let ids ← liftDomain (devices.mapM Identity.deviceId)
  let root ← rootPieces options
  let s := ({ access := .read } : Statement).bind "ids" (.ofStrings ids)
  let s := s.push (.written [.text "MATCH (v:", .name Category.device.identifier,
    .text ") WHERE v.id IN ", .slot "ids"])
  if options.components || options.groups then
    let (s, condition) := edgeCondition s options
    let around (pattern item : String) : List Piece :=
      .text ("[" ++ pattern) :: condition ++ [.text (" | " ++ item ++ "]")]
    return s.push (.written (.text "RETURN \x7b\n  object: " :: root ++
      .text ",\n  pathsIn: " :: around "(v)<-[e]-(n)" Statement.pathProjection ++
      .text ",\n  pathsOut: " :: around "(v)-[e]->(n)" Statement.pathProjection ++
      .text ",\n  Es: " :: around "(v)-[e]-(n)" Statement.edgeProjection ++
      .text ",\n  Vs: " :: around "(v)-[e]-(n)" "properties(n)" ++
      [.text "\n\x7d AS result"]))
  else return s.push (.written (.text "RETURN \x7bobject: " :: root ++ [.text "\x7d AS result"]))

/-- The devices that exist, in the order of the engine. -/
def getAll (devices : List String) (options : ReadOptions) : Session GraphError (List Node) := do
  let s ← Session.ofExcept (getStatement devices options)
  let rows ← Session.run "devices.get" s
  Session.ofExcept (rows.mapM Assembly.projectionOfRow)

def get (device : String) (options : ReadOptions) : Session GraphError (Option Node) := do
  return (← getAll [device] options).head?

def labels (device : String) (legacy : Bool) : Session GraphError (Option (List String)) := do
  Store.labels (← Session.ofDomain (Identity.deviceId device)) legacy

def componentLabels (device component : String) (legacy : Bool) :
    Session GraphError (Option (List String)) := do
  Store.labels (← Session.ofDomain (Identity.componentId device component)) legacy

def related (device : String) (q : RelatedQuery) : Session GraphError (Option Node) := do
  Store.related (← Session.ofDomain (Identity.deviceId device)) q

/-! ## Creating -/

/-- Creates the components of the new device `v`, numbered from `i`, each with its edge. -/
def createComponents (ids : EdgeIds) (device : String) :
    Statement → Nat → List Node → Except GraphError Statement
  | s, _, [] => .ok s
  | s, i, component :: rest => do
    let var := "c" ++ decimalText i
    let componentId ← liftDomain (Identity.componentId device component.id)
    let s ← s.createVertex var componentId component .component keyProperty
    createComponents ids device (s.createEdge ids var componentIdentifier "v") (i + 1) rest

/-- Creates a device with its components and its links; gives its vertex id too. -/
def createStatement (ids : EdgeIds) (device : Node) (groups devices : Relations)
    (components : List Node) : Except GraphError (String × Statement) := do
  let vertexId ← liftDomain (Identity.deviceId device.id)
  let s ← ({ access := .write } : Statement).createVertex "v" vertexId device .device keyProperty
  let s ← createComponents ids device.id s 0 components
  let s ← Statement.linkAll ids "v" Identity.groupId s groups.entries
  let s ← Statement.linkAll ids "v" Identity.deviceId s devices.entries
  return (vertexId, s)

def create (device : Node) (groups devices : Relations) (components : List Node) :
    Session GraphError String := do
  let (vertexId, s) ← Session.ofExcept
    (createStatement (← Session.edgeIds) device groups devices components)
  let _ ← Session.run "devices.create" s
  return vertexId

/-- Creates a component if its device exists; gives its vertex id too. -/
def createComponentStatement (ids : EdgeIds) (device : String) (component : Node) :
    Except GraphError (String × Statement) := do
  let deviceId ← liftDomain (Identity.deviceId device)
  let componentId ← liftDomain (Identity.componentId device component.id)
  let (s, root) ← ({ access := .write } : Statement).vertex "d" deviceId
  let s := s.push (.findVertices [root])
  let s ← s.createVertex "c" componentId component .component keyProperty
  return (componentId, s.createEdge ids "c" componentIdentifier "d")

def createComponent (device : String) (component : Node) : Session GraphError String := do
  let (vertexId, s) ← Session.ofExcept
    (createComponentStatement (← Session.edgeIds) device component)
  let _ ← Session.run "devices.create_component" s
  return vertexId

/-! ## Changing and deleting -/

def update (device : Node) : Session GraphError Unit := do
  Store.update (← Session.ofDomain (Identity.deviceId device.id)) device.attributes

def updateComponent (device component : String) (attributes : Dict Json) :
    Session GraphError Unit := do
  Store.update (← Session.ofDomain (Identity.componentId device component)) attributes

def deleteStatement (device : String) : Except GraphError Statement := do
  let vertexId ← liftDomain (Identity.deviceId device)
  let (s, root) ← ({ access := .write } : Statement).vertex "v" vertexId
  let s := s.push (.findVertices [root])
  let s := s.push (.written [.text "OPTIONAL MATCH (c:", .name Category.component.identifier,
    .text ")-[:", .name componentIdentifier, .text "]->(v)"])
  return s.push (.deleteVertices ["c", "v"])

def delete (device : String) : Session GraphError Unit := do
  let s ← Session.ofExcept (deleteStatement device)
  let _ ← Session.run "devices.delete" s

def deleteComponent (device component : String) : Session GraphError Unit := do
  Store.delete (← Session.ofDomain (Identity.componentId device component))

/-! ## Edges -/

def attachToGroup (device relation : String) (direction : Direction) (group : String) :
    Session GraphError Unit := do
  let entity ← Session.ofDomain (Identity.deviceId device)
  let other ← Session.ofDomain (Identity.groupId group)
  Store.attach entity relation direction other

def detachFromGroup (device relation : String) (direction : Direction) (group : String) :
    Session GraphError Unit := do
  let entity ← Session.ofDomain (Identity.deviceId device)
  let other ← Session.ofDomain (Identity.groupId group)
  Store.detach entity relation direction other

def attachToDevice (device relation : String) (direction : Direction) (other : String) :
    Session GraphError Unit := do
  let entity ← Session.ofDomain (Identity.deviceId device)
  let other ← Session.ofDomain (Identity.deviceId other)
  Store.attach entity relation direction other

def detachFromDevice (device relation : String) (direction : Direction) (other : String) :
    Session GraphError Unit := do
  let entity ← Session.ofDomain (Identity.deviceId device)
  let other ← Session.ofDomain (Identity.deviceId other)
  Store.detach entity relation direction other

end Store.Devices

end DeviceGraph
