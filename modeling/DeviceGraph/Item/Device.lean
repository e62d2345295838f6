import DeviceGraph.Item.Basic
import DeviceGraph.Json.Record
import DeviceGraph.Statement.Entity
import DeviceGraph.Store.Devices

/-!
# Device items

A device, or a component of one, as callers see it: its key, its template,
description and state beside its other attributes, the keys of what it is
related to, and its components.
-/

set_option autoImplicit false

namespace DeviceGraph

structure DeviceItem where
  deviceId : String
  templateId : String
  description : Option String := none
  state : Option String := none
  attributes : Dict Json := .empty
  groups : Relations := {}
  devices : Relations := {}
  components : List DeviceItem := []

namespace DeviceItem

def descriptionKey : String := "description"
def stateKey : String := "state"

/-! ## Items and nodes -/

def toNode (item : DeviceItem) (category : Category) : Node :=
  { Node.ofTemplate item.deviceId item.templateId category with
    attributes := Item.putField (Item.putField item.attributes descriptionKey item.description)
      stateKey item.state }

def ofRoot (n : Node) : DeviceItem :=
  { deviceId := n.id
    templateId := n.template?.getD ""
    description := Item.fieldText? (n.attributes.get? descriptionKey)
    state := Item.fieldText? (n.attributes.get? stateKey)
    attributes :=
      Item.without [Store.Devices.keyProperty, descriptionKey, stateKey] n.attributes
    groups := Item.linkedKeys n .group
    devices := Item.linkedKeys n .device }

mutual

/-- The item of a node. Its components are the component nodes that come in over
the relation of components. -/
def ofNode (n : Node) : DeviceItem :=
  match n with
  | ⟨id, types, category, attributes, ⟨incoming, outgoing, both⟩, vertexId⟩ =>
    { ofRoot ⟨id, types, category, attributes, ⟨incoming, outgoing, both⟩, vertexId⟩ with
      components := componentsOfSide incoming }

def componentsOfSide : Option (List (String × List Node)) → List DeviceItem
  | none => []
  | some side => componentsOfEntries side

def componentsOfEntries : List (String × List Node) → List DeviceItem
  | [] => []
  | (relation, nodes) :: rest =>
    if relation = componentRelation then componentsOfNodes nodes else componentsOfEntries rest

def componentsOfNodes : List Node → List DeviceItem
  | [] => []
  | n :: rest =>
    if n.category = .component then ofNode n :: componentsOfNodes rest else componentsOfNodes rest

end

/-! ## Items in JSON -/

mutual

def toJson (item : DeviceItem) : Json :=
  match item with
  | ⟨deviceId, templateId, description, state, attributes, groups, devices, components⟩ =>
    .object (Item.attributesMember attributes ++
      (if components.isEmpty then [] else [("components", .array (itemsJson components))]) ++
      Item.textMember descriptionKey description ++ [("deviceId", .string deviceId)] ++
      Item.relationsMember "devices" devices ++ Item.relationsMember "groups" groups ++
      Item.textMember stateKey state ++ [("templateId", .string templateId)])

def itemsJson : List DeviceItem → List Json
  | [] => []
  | item :: rest => toJson item :: itemsJson rest

end

def recordName : String := "DeviceItem"

def layout : List Json.Field :=
  [⟨"deviceId", .string, true⟩, ⟨"templateId", .string, true⟩,
    ⟨descriptionKey, .optional .string, false⟩, ⟨stateKey, .optional .string, false⟩,
    ⟨"attributes", .dict .any, false⟩, ⟨"groups", .record Relations.recordName, false⟩,
    ⟨"devices", .record Relations.recordName, false⟩,
    ⟨"components", .list (.record recordName), false⟩]

def fields : List String := layout.map (·.name)

def ofRecord? (r : Record) : Option DeviceItem := do
  return {
    deviceId := ← r.required "deviceId" Json.string?
    templateId := ← r.required "templateId" Json.string?
    description := ← r.optional descriptionKey Json.string?
    state := ← r.optional stateKey Json.string?
    attributes := ← r.defaulted "attributes" .empty Json.dict?
    groups := ← r.defaulted "groups" {} Relations.ofJson?
    devices := ← r.defaulted "devices" {} Relations.ofJson? }

mutual

def ofJson? : Json → Option DeviceItem
  | .object members => do
    let item ← ((Json.object members).record? fields).bind ofRecord?
    let components ← componentsMember? members
    return { item with components }
  | .array items => do
    let item ← ((Json.array items).record? fields).bind ofRecord?
    let components ← componentsItem? items
    return { item with components }
  | _ => none

def componentsMember? : List (String × Json) → Option (List DeviceItem)
  | [] => some []
  | (name, value) :: rest => if name = "components" then items? value else componentsMember? rest

def componentsItem? : List Json → Option (List DeviceItem)
  | [_, _, _, _, _, _, _, value] => items? value
  | _ => some []

def items? : Json → Option (List DeviceItem)
  | .array items => listItems? items
  | _ => none

def listItems? : List Json → Option (List DeviceItem)
  | [] => some []
  | value :: rest => do
    let item ← ofJson? value
    let items ← listItems? rest
    return item :: items

end

end DeviceItem

end DeviceGraph
