import DeviceGraph.Item.Device
import DeviceGraph.Item.Group
import DeviceGraph.Service.Error

/-!
# Device service

Operations on device items. Keys and templates are checked before the store is
asked. What is updated, and the device that a component is created for, must
exist, which is seen from its labels.
-/

set_option autoImplicit false

namespace DeviceGraph.Service

variable {α : Type}

def inStore (action : Session GraphError α) : Session ServiceError α := action.mapError .graph

/-- Goes on only if the labels of an entity could be read. -/
def requireLabels (labels : Session GraphError (Option (List String))) (missing : Missing) :
    Session ServiceError Unit := do
  match ← inStore labels with
  | some _ => return
  | none => throw (.notFound missing)

namespace Devices

def checkItem (item : DeviceItem) : Except ServiceError Unit := do
  check (Identity.validateKey item.deviceId)
  if item.templateId = "" then throw (.invalidInput (.deviceTemplate item.deviceId))

def checkComponent (device : String) (component : DeviceItem) : Except ServiceError Unit := do
  checkItem component
  let _ ← check (Identity.componentId device component.deviceId)

def get (device : String) (options : ReadOptions) : Session ServiceError (Option DeviceItem) := do
  Session.ofExcept (check (Identity.validateKey device))
  return (← inStore (Store.Devices.get device options)).map .ofNode

def getAll (devices : List String) (options : ReadOptions) :
    Session ServiceError (List DeviceItem) := do
  Session.ofExcept (check (devices.forM Identity.validateKey))
  return (← inStore (Store.Devices.getAll devices options)).map .ofNode

def create (item : DeviceItem) : Session ServiceError String := do
  Session.ofExcept (checkItem item)
  Session.ofExcept (item.components.forM (checkComponent item.deviceId))
  let _ ← inStore (Store.Devices.create (item.toNode .device) item.groups item.devices
    (item.components.map (·.toNode .component)))
  return item.deviceId

/-- Writes the attributes of an item to an existing device; `null` removes one. -/
def update (item : DeviceItem) (legacy : Bool) : Session ServiceError Unit := do
  Session.ofExcept (check (Identity.validateKey item.deviceId))
  requireLabels (Store.Devices.labels item.deviceId legacy) (.device item.deviceId)
  inStore (Store.Devices.update (item.toNode .device))

def delete (device : String) : Session ServiceError Unit := do
  Session.ofExcept (check (Identity.validateKey device))
  inStore (Store.Devices.delete device)

/-! ## Components -/

def createComponent (device : String) (component : DeviceItem) (legacy : Bool) :
    Session ServiceError String := do
  Session.ofExcept (checkComponent device component)
  requireLabels (Store.Devices.labels device legacy) (.device device)
  let _ ← inStore (Store.Devices.createComponent device (component.toNode .component))
  return component.deviceId

def updateComponent (device : String) (component : DeviceItem) (legacy : Bool) :
    Session ServiceError Unit := do
  let _ ← Session.ofExcept (check (Identity.componentId device component.deviceId))
  requireLabels (Store.Devices.componentLabels device component.deviceId legacy)
    (.component component.deviceId device)
  inStore (Store.Devices.updateComponent device component.deviceId
    (component.toNode .component).attributes)

def deleteComponent (device component : String) : Session ServiceError Unit := do
  let _ ← Session.ofExcept (check (Identity.componentId device component))
  inStore (Store.Devices.deleteComponent device component)

/-! ## Relations -/

def attachToGroup (device relation : String) (direction : Direction) (group : String) :
    Session ServiceError Unit := do
  Session.ofExcept (checkRelationship relation)
  inStore (Store.Devices.attachToGroup device relation direction group)

def detachFromGroup (device relation : String) (direction : Direction) (group : String) :
    Session ServiceError Unit := do
  Session.ofExcept (checkRelationship relation)
  inStore (Store.Devices.detachFromGroup device relation direction group)

def attachToDevice (device relation : String) (direction : Direction) (other : String) :
    Session ServiceError Unit := do
  Session.ofExcept (checkRelationship relation)
  inStore (Store.Devices.attachToDevice device relation direction other)

def detachFromDevice (device relation : String) (direction : Direction) (other : String) :
    Session ServiceError Unit := do
  Session.ofExcept (checkRelationship relation)
  inStore (Store.Devices.detachFromDevice device relation direction other)

/-- The groups related to a device, none if it does not exist. -/
def relatedGroups (device : String) (q : RelatedQuery) :
    Session ServiceError (Option (List GroupItem)) := do
  Session.ofExcept (check (Identity.validateKey device))
  return (← inStore (Store.Devices.related device q)).map fun n =>
    (Item.linkedNodes n .group).map .ofNode

def relatedDevices (device : String) (q : RelatedQuery) :
    Session ServiceError (Option (List DeviceItem)) := do
  Session.ofExcept (check (Identity.validateKey device))
  return (← inStore (Store.Devices.related device q)).map fun n =>
    (Item.linkedNodes n .device).map .ofNode

end Devices

end DeviceGraph.Service
