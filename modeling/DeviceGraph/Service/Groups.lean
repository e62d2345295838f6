import DeviceGraph.Service.Devices

/-!
# Group service

Operations on group items. The path and the template of a group are checked
before the store is asked. A group that is updated, and the group above a new
one, must exist.
-/

set_option autoImplicit false

namespace DeviceGraph.Service.Groups

def get (group : String) : Session ServiceError (Option GroupItem) := do
  Session.ofExcept (check (Identity.validateKey group))
  return (← inStore (Store.Groups.get group true)).map .ofNode

def getAll (groups : List String) : Session ServiceError (List GroupItem) := do
  Session.ofExcept (check (groups.forM Identity.validateKey))
  return (← inStore (Store.Groups.getAll groups true)).map .ofNode

def checkItem (item : GroupItem) : Except ServiceError Unit := do
  check (Identity.validateKey item.path)
  if item.templateId = "" then throw (.invalidInput (.groupTemplate item.path))

def create (item : GroupItem) (legacy : Bool) : Session ServiceError String := do
  Session.ofExcept (checkItem item)
  if item.parentPath ≠ "" then
    requireLabels (Store.Groups.labels item.parentPath legacy) (.parentGroup item.parentPath)
  let _ ← inStore (Store.Groups.create item.toNode item.groups)
  return item.path

/-- Writes the attributes of an item to an existing group; `null` removes one. -/
def update (item : GroupItem) (legacy : Bool) : Session ServiceError Unit := do
  Session.ofExcept (check (Identity.validateKey item.path))
  requireLabels (Store.Groups.labels item.path legacy) (.group item.path)
  inStore (Store.Groups.update item.toNode)

def delete (group : String) : Session ServiceError Unit := do
  Session.ofExcept (check (Identity.validateKey group))
  inStore (Store.Groups.delete group)

def attach (group relation other : String) : Session ServiceError Unit := do
  Session.ofExcept (checkRelationship relation)
  inStore (Store.Groups.attach group relation other)

def detach (group relation other : String) : Session ServiceError Unit := do
  Session.ofExcept (checkRelationship relation)
  inStore (Store.Groups.detach group relation other)

/-- A group and the groups above it, the nearest first. -/
def ancestors (group : String) : Session ServiceError (List GroupItem) := do
  Session.ofExcept (check (Identity.validateKey group))
  return (← inStore (Store.Groups.ancestors group)).map .ofNode

def relatedGroups (group : String) (q : RelatedQuery) :
    Session ServiceError (Option (List GroupItem)) := do
  Session.ofExcept (check (Identity.validateKey group))
  return (← inStore (Store.Groups.related group q)).map fun n =>
    (Item.linkedNodes n .group).map .ofNode

def relatedDevices (group : String) (q : RelatedQuery) :
    Session ServiceError (Option (List DeviceItem)) := do
  Session.ofExcept (check (Identity.validateKey group))
  return (← inStore (Store.Groups.related group q)).map fun n =>
    (Item.linkedNodes n .device).map .ofNode

end DeviceGraph.Service.Groups
