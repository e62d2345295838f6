import DeviceGraph.Item.Device
import DeviceGraph.Item.Group
import DeviceGraph.Proofs.Node.Json

/-!
# Nodes and items are read back from their written forms

Items and nodes are written as JSON values and read from them. What an item leaves out is what it
is read back with. Relations are left out when none of them names an entity, so that one without
names is not read back. At every depth of the value nothing else is lost of an item, and of a node
no more than the vertex ids. The text of a value is a second matter: the reader of texts refuses
one that is nested too deeply.
-/

set_option autoImplicit false

namespace DeviceGraph
open Json (leftOutIf)

/-! ## Relations -/

namespace Relations

/-- Relations as an item keeps them in writing: none at all when nothing is named. -/
def tidied (r : Relations) : Relations := if r.entries = [] then {} else r

theorem isEmpty_iff (r : Relations) : r.isEmpty = true ↔ r.entries = [] := by
  simp [isEmpty, entries, List.flatMap_eq_nil_iff]

def sideValue? (side : Dict (List String)) : Option Json :=
  leftOutIf side.isEmpty (.ofDict (side.map .ofStrings))

def writtenFields (r : Relations) : List (String × Option Json) :=
  [("in", sideValue? r.incoming), ("out", sideValue? r.outgoing)]

theorem toJson_eq (r : Relations) : r.toJson = .object (Json.members r.writtenFields) := by
  simp only [writtenFields, sideValue?, Json.members_cons, Json.members_nil,
    Json.member_leftOutIf, List.append_nil]
  rfl

/-- A side that is left out is the empty one. -/
theorem elim_sideValue? (side : Dict (List String)) :
    (sideValue? side).elim (some .empty) (Json.dictOf? (Json.list? Json.string?)) = some side :=
  Json.elim_leftOutIf (fun h => congrArg some (Dict.eq_empty_of_isEmpty h).symm)
    (Json.dictOf?_ofDict Json.list?_ofStrings side)

/-- By themselves relations are read back as they are. -/
theorem ofJson?_toJson (r : Relations) : ofJson? r.toJson = some r := by
  have hnames : (r.writtenFields.map (·.1)).Nodup := by
    show ["in", "out"].Nodup
    decide
  rw [toJson_eq, ofJson?, Json.record?]
  simp only [Record.defaulted_members hnames, Option.bind_eq_bind, Option.bind_some]
  simp [writtenFields, Entries.get?, elim_sideValue?]

end Relations

namespace Item

/-! ## Fields that can be left out -/

def attributesValue? (attributes : Dict Json) : Option Json :=
  leftOutIf attributes.isEmpty (.ofDict attributes)

def relationsValue? (r : Relations) : Option Json := leftOutIf r.isEmpty r.toJson

theorem attributesMember_eq (attributes : Dict Json) :
    attributesMember attributes = Json.member "attributes" (attributesValue? attributes) :=
  (Json.member_leftOutIf _ _ _).symm

theorem relationsMember_eq (name : String) (r : Relations) :
    relationsMember name r = Json.member name (relationsValue? r) :=
  (Json.member_leftOutIf _ _ _).symm

theorem textMember_eq (name : String) (text : Option String) :
    textMember name text = Json.member name (text.map .string) := by
  cases text <;> rfl

theorem elim_attributesValue? (attributes : Dict Json) :
    (attributesValue? attributes).elim (some .empty) Json.dict? = some attributes :=
  Json.elim_leftOutIf (fun h => congrArg some (Dict.eq_empty_of_isEmpty h).symm)
    (Json.dict?_ofDict attributes)

theorem elim_relationsValue? (r : Relations) :
    (relationsValue? r).elim (some {}) Relations.ofJson? = some r.tidied := by
  rw [relationsValue?, Relations.tidied, leftOutIf]
  by_cases h : r.entries = []
  · rw [if_pos h, if_pos (r.isEmpty_iff.mpr h)]
    rfl
  · rw [if_neg h, if_neg fun hempty => h (r.isEmpty_iff.mp hempty)]
    exact Relations.ofJson?_toJson r

/-- A text that is written or left out is read back as it is. -/
theorem optional_text {fields : List (String × Option Json)} (h : (fields.map (·.1)).Nodup)
    {name : String} {text : Option String}
    (htext : (Entries.get? name fields).join = text.map .string) :
    (Record.mk (Json.members fields) false).optional name Json.string? = some text := by
  rw [Record.optional_members h name Json.string? (by rw [htext]; cases text <;> simp), htext]
  cases text <;> rfl

end Item

namespace GroupItem

/-! ## Groups -/

def tidied (item : GroupItem) : GroupItem := { item with groups := item.groups.tidied }

def writtenFields (item : GroupItem) : List (String × Option Json) :=
  [("attributes", Item.attributesValue? item.attributes),
    (descriptionKey, item.description.map .string), ("groupPath", some (.string item.groupPath)),
    ("groups", Item.relationsValue? item.groups), ("name", some (.string item.name)),
    ("parentPath", some (.string item.parentPath)),
    ("templateId", some (.string item.templateId))]

theorem toJson_eq (item : GroupItem) : item.toJson = .object (Json.members item.writtenFields) := by
  simp only [toJson, writtenFields, Item.attributesMember_eq, Item.textMember_eq,
    Item.relationsMember_eq, Json.members_cons, Json.members_nil, Json.member_some,
    List.append_assoc, List.cons_append, List.nil_append]

theorem ofJson?_toJson (item : GroupItem) : ofJson? item.toJson = some item.tidied := by
  have hnames : (item.writtenFields.map (·.1)).Nodup := by
    show ["attributes", "description", "groupPath", "groups", "name", "parentPath",
      "templateId"].Nodup
    decide
  have hdescription : (Entries.get? "description" item.writtenFields).join =
      item.description.map .string := by
    simp [writtenFields, Entries.get?, descriptionKey]
  rw [toJson_eq, ofJson?, Json.record?]
  simp only [Record.required_members hnames, Record.defaulted_members hnames,
    Item.optional_text hnames hdescription, Option.bind_eq_bind, Option.bind_some]
  simp [writtenFields, Entries.get?, descriptionKey, Json.string?, Item.elim_attributesValue?,
    Item.elim_relationsValue?, tidied]

end GroupItem

namespace DeviceItem

/-! ## Devices -/

mutual

def tidied (item : DeviceItem) : DeviceItem :=
  match item with
  | ⟨deviceId, templateId, description, state, attributes, groups, devices, components⟩ =>
    ⟨deviceId, templateId, description, state, attributes, groups.tidied, devices.tidied,
      tidiedAll components⟩

def tidiedAll : List DeviceItem → List DeviceItem
  | [] => []
  | item :: rest => tidied item :: tidiedAll rest

end

def writtenFields (item : DeviceItem) (components : Option Json) : List (String × Option Json) :=
  [("attributes", Item.attributesValue? item.attributes), ("components", components),
    (descriptionKey, item.description.map .string), ("deviceId", some (.string item.deviceId)),
    ("devices", Item.relationsValue? item.devices), ("groups", Item.relationsValue? item.groups),
    (stateKey, item.state.map .string), ("templateId", some (.string item.templateId))]

def componentsValue? (components : List DeviceItem) : Option Json :=
  leftOutIf components.isEmpty (.array (itemsJson components))

theorem toJson_eq (item : DeviceItem) : item.toJson =
    .object (Json.members (item.writtenFields (componentsValue? item.components))) := by
  obtain ⟨deviceId, templateId, description, state, attributes, groups, devices, components⟩ := item
  simp only [toJson, writtenFields, componentsValue?, Item.attributesMember_eq, Item.textMember_eq,
    Item.relationsMember_eq, Json.members_cons, Json.members_nil, Json.member_some,
    Json.member_leftOutIf, List.append_assoc, List.cons_append, List.nil_append]

theorem nodup_writtenFields (item : DeviceItem) (components : Option Json) :
    ((item.writtenFields components).map (·.1)).Nodup := by
  show ["attributes", "components", "description", "deviceId", "devices", "groups", "state",
    "templateId"].Nodup
  decide

theorem ofRecord?_written (item : DeviceItem) (components : Option Json) :
    ofRecord? ⟨Json.members (item.writtenFields components), false⟩ =
      some { item with
        groups := item.groups.tidied
        devices := item.devices.tidied
        components := [] } := by
  have hnames := item.nodup_writtenFields components
  have hdescription : (Entries.get? descriptionKey (item.writtenFields components)).join =
      item.description.map .string := by
    simp [writtenFields, Entries.get?, descriptionKey]
  have hstate : (Entries.get? stateKey (item.writtenFields components)).join =
      item.state.map .string := by
    simp [writtenFields, Entries.get?, descriptionKey, stateKey]
  simp only [ofRecord?, Record.required_members hnames, Record.defaulted_members hnames,
    Item.optional_text hnames hdescription, Item.optional_text hnames hstate,
    Option.bind_eq_bind, Option.bind_some]
  simp [writtenFields, Entries.get?, descriptionKey, stateKey, Json.string?,
    Item.elim_attributesValue?, Item.elim_relationsValue?]

theorem componentsMember?_eq (members : List (String × Json)) :
    componentsMember? members =
      (Entries.get? "components" members).elim (some []) items? :=
  Entries.eq_elim_get? rfl (fun _ _ _ => by rw [componentsMember?]) members

theorem componentsMember?_written (item : DeviceItem) (components : List DeviceItem) :
    componentsMember? (Json.members (item.writtenFields (componentsValue? components))) =
      listItems? (itemsJson components) := by
  have hget : (Entries.get? "components" (item.writtenFields (componentsValue? components))).join =
      componentsValue? components := by
    simp [writtenFields, Entries.get?]
  rw [componentsMember?_eq, Entries.get?_members (item.nodup_writtenFields _), hget]
  refine Json.elim_leftOutIf (fun hnone => ?_) rfl
  rw [List.isEmpty_iff.mp hnone, itemsJson, listItems?]

mutual

/-- A device item that is written and read is the item with its relations tidied, and so are
those of its components. -/
theorem ofJson?_toJson (item : DeviceItem) : ofJson? item.toJson = some item.tidied := by
  match item with
  | ⟨deviceId, templateId, description, state, attributes, groups, devices, components⟩ =>
    rw [toJson_eq, ofJson?, componentsMember?_written, listItems?_itemsJson components,
      Json.record?, Option.bind_some, ofRecord?_written]
    rfl

theorem listItems?_itemsJson (items : List DeviceItem) :
    listItems? (itemsJson items) = some (tidiedAll items) := by
  match items with
  | [] => rfl
  | item :: rest =>
    rw [itemsJson, listItems?, ofJson?_toJson item, listItems?_itemsJson rest]
    rfl

end

/-- Relations that name nothing are not kept, whatever their keys are. -/
example : (ofJson? (toJson { deviceId := "d", templateId := "bus", groups :=
    { incoming := Dict.ofList [("near", [])] } })).map (·.groups) = some {} := by rfl

/-- One name keeps all of them, also the relation that names nothing. -/
example : (ofJson? (toJson { deviceId := "d", templateId := "bus", groups :=
    { outgoing := Dict.ofList [("at", ["/depot"]), ("near", [])] } })).map
      (·.groups.outgoing.entries) = some [("at", ["/depot"]), ("near", [])] := by rfl

end DeviceItem

/-! ## Written forms -/

/-- From its value every node is read back without its vertex ids, and every item with its
relations tidied, at every depth of the value; how deep a text may be is for its reader. -/
theorem forms_read_back : (∀ n : Node, Node.ofJson? n.toJson = some n.cleared) ∧
    (∀ item : DeviceItem, DeviceItem.ofJson? item.toJson = some item.tidied) ∧
    ∀ item : GroupItem, GroupItem.ofJson? item.toJson = some item.tidied :=
  ⟨Node.ofJson?_toJson, DeviceItem.ofJson?_toJson, GroupItem.ofJson?_toJson⟩

end DeviceGraph
