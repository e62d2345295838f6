import DeviceGraph.Item.Basic
import DeviceGraph.Json.Record
import DeviceGraph.Store.Groups
import DeviceGraph.Text.LowerCase

/-!
# Group items

A group as callers see it: its path, its template, the path of the group above,
name and description beside its other attributes, and the paths of the groups it
is related to. Without a path of its own it stands under the group above, by its
name in lower case.
-/

set_option autoImplicit false

namespace DeviceGraph

structure GroupItem where
  groupPath : String := ""
  templateId : String
  parentPath : String := ""
  name : String := ""
  description : Option String := none
  attributes : Dict Json := .empty
  groups : Relations := {}
  deriving DecidableEq

namespace GroupItem

def nameKey : String := "name"
def descriptionKey : String := "description"

def path (item : GroupItem) : String :=
  if item.groupPath ≠ "" then item.groupPath
  else if item.parentPath = "" ∨ item.parentPath = Store.Groups.rootPath then
    Store.Groups.rootPath ++ Text.lowerCase item.name
  else item.parentPath ++ "/" ++ Text.lowerCase item.name

def nonempty? (text : String) : Option String := if text = "" then none else some text

def toNode (item : GroupItem) : Node :=
  { Node.ofTemplate item.path item.templateId .group with
    attributes := Item.putField (Item.putField
      (Item.putField item.attributes nameKey (nonempty? item.name))
      Store.Groups.parentProperty (nonempty? item.parentPath)) descriptionKey item.description }

def ofNode (n : Node) : GroupItem :=
  { groupPath := n.id
    templateId := n.template?.getD ""
    parentPath := (Item.fieldText? (n.attributes.get? Store.Groups.parentProperty)).getD ""
    name := (Item.fieldText? (n.attributes.get? nameKey)).getD ""
    description := Item.fieldText? (n.attributes.get? descriptionKey)
    attributes := Item.without
      [Store.Groups.keyProperty, nameKey, Store.Groups.parentProperty, descriptionKey] n.attributes
    groups := Item.linkedKeys n .group }

def toJson (item : GroupItem) : Json :=
  .object (Item.attributesMember item.attributes ++
    Item.textMember descriptionKey item.description ++ [("groupPath", .string item.groupPath)] ++
    Item.relationsMember "groups" item.groups ++
    [("name", .string item.name), ("parentPath", .string item.parentPath),
      ("templateId", .string item.templateId)])

def recordName : String := "GroupItem"

def layout : List Json.Field :=
  [⟨"groupPath", .string, false⟩, ⟨"templateId", .string, true⟩,
    ⟨"parentPath", .string, false⟩, ⟨"name", .string, false⟩,
    ⟨"description", .optional .string, false⟩, ⟨"attributes", .dict .any, false⟩,
    ⟨"groups", .record Relations.recordName, false⟩]

def ofJson? (j : Json) : Option GroupItem := do
  let r ← j.record? (layout.map (·.name))
  return {
    groupPath := ← r.defaulted "groupPath" "" Json.string?
    templateId := ← r.required "templateId" Json.string?
    parentPath := ← r.defaulted "parentPath" "" Json.string?
    name := ← r.defaulted "name" "" Json.string?
    description := ← r.optional "description" Json.string?
    attributes := ← r.defaulted "attributes" .empty Json.dict?
    groups := ← r.defaulted "groups" {} Relations.ofJson? }

end GroupItem

end DeviceGraph
