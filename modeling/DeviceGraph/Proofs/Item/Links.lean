import DeviceGraph.Item.Device
import DeviceGraph.Item.Group
import DeviceGraph.Proofs.Relations

/-!
# The links of a node in its item

An item names the linked groups and devices of its node by their keys, by direction and
relation, and holds the items of its components. It names every linked group and device as
often as the node is linked to it; a link that may be read in either direction is named among
those that go out.
-/

set_option autoImplicit false

namespace DeviceGraph

namespace Links

variable {α : Type}

def sideLinks (links : Links α) (direction : Direction) : List (Direction × String × α) :=
  Entries.directed direction ((links.side direction).getD [])

def all (links : Links α) : List (Direction × String × α) :=
  links.sideLinks .incoming ++ (links.sideLinks .outgoing ++ links.sideLinks .both)

theorem all_eq (links : Links α) : links.all =
    links.entries.flatMap fun entry => entry.2.2.map fun other => (entry.1, entry.2.1, other) := by
  simp [all, sideLinks, Entries.directed, entries, Direction.all, List.flatMap_map]

theorem map_all (links : Links α) : links.all.map (·.2.2) = links.targets := by
  rw [all_eq, targets, List.map_flatMap]
  simp [Function.comp_def]

theorem filter_sideLinks {links : Links α} (h : links.Sorted) (direction : Direction)
    (chosen : Direction → Prop) [DecidablePred chosen] (relation : String) :
    (links.sideLinks direction).filter (fun a => chosen a.1 ∧ a.2.1 = relation) =
      if chosen direction then
        (links.get direction relation).map fun other => (direction, relation, other)
      else [] := Entries.filter_directed (h direction) direction chosen relation

/-- Under a direction and a relation stand the links that are kept there. -/
theorem filter_all {links : Links α} (h : links.Sorted) (direction : Direction)
    (relation : String) :
    links.all.filter (fun a => a.1 = direction ∧ a.2.1 = relation) =
      (links.get direction relation).map fun other => (direction, relation, other) := by
  have hside := fun side => filter_sideLinks h side (· = direction) relation
  rw [all, List.filter_append, List.filter_append, hside, hside, hside]
  cases direction <;> simp

end Links

namespace Item

/-- The links of a node to nodes of a category as an item declares them: oriented, and with
the key of the linked node. -/
def declaredLinks (n : Node) (category : Category) : List (Direction × String × String) :=
  (n.links.all.filter (·.2.2.category = category)).map fun link =>
    (link.1.oriented, link.2.1, link.2.2.id)

theorem linkedKeys_eq_addAll (n : Node) (category : Category) :
    linkedKeys n category = Relations.addAll .empty
      ((n.links.all.filter (·.2.2.category = category)).map fun link =>
        (link.1, link.2.1, link.2.2.id)) := by
  rw [linkedKeys, Links.all_eq, Relations.addAll, List.filter_flatMap, List.map_flatMap,
    List.foldl_flatMap]
  simp [List.filter_map, List.foldl_map, Function.comp_def]

theorem perm_entries_linkedKeys (n : Node) (category : Category) :
    (linkedKeys n category).entries.Perm (declaredLinks n category) := by
  have hperm := Relations.perm_entries_addAll
    ((n.links.all.filter (·.2.2.category = category)).map fun link =>
      (link.1, link.2.1, link.2.2.id))
  rw [← linkedKeys_eq_addAll, List.map_map] at hperm
  exact hperm

/-- Under a relation an item names the nodes that are linked there: those of links that go out
before those of links that may be read in either direction. -/
theorem get_linkedKeys {n : Node} (h : n.links.Sorted) (category : Category) (relation : String) :
    let keys := fun direction =>
      ((n.linked direction relation).filter (·.category = category)).map (·.id)
    (linkedKeys n category).get .incoming relation = keys .incoming ∧
      (linkedKeys n category).get .outgoing relation = keys .outgoing ++ keys .both := by
  have hkeys : ∀ d, (linkedKeys n category).get d relation =
      ((n.links.all.filter fun a => a.1.oriented = d ∧ a.2.1 = relation).filter
        (·.2.2.category = category)).map (·.2.2.id) := by
    intro d
    rw [linkedKeys_eq_addAll, Relations.get_addAll, Relations.get_empty, List.nil_append,
      List.filter_map, List.map_map, List.filter_comm]
    rfl
  have hside := fun d side => Links.filter_sideLinks h side (·.oriented = d) relation
  simp only [hkeys, Links.all, List.filter_append, hside, Node.linked]
  constructor <;> simp [Direction.oriented, List.filter_map, Function.comp_def]

example : (linkedKeys (((Node.ofTemplate "bus" "van" .device).addLink .both "near"
      (.ofTemplate "east" "depot" .group)).addLink .outgoing "near"
        (.ofTemplate "west" "depot" .group)) .group).entries =
    [(.outgoing, "near", "west"), (.outgoing, "near", "east")] := by rfl

theorem length_declaredLinks (n : Node) (category : Category) :
    (declaredLinks n category).length = (linkedNodes n category).length := by
  rw [declaredLinks, List.length_map, linkedNodes, ← Links.map_all, List.filter_map,
    List.length_map]
  rfl

/-- Every linked node is a group, a device or a component. -/
theorem length_linkedNodes (n : Node) : (linkedNodes n .group).length +
    (linkedNodes n .device).length + (linkedNodes n .component).length = n.linkCount := by
  simp only [linkedNodes, Node.linkCount]
  induction n.links.targets with
  | nil => rfl
  | cons other others ih =>
    cases hc : other.category <;> simp [hc] <;> omega

end Item

namespace DeviceItem

theorem componentsOfNodes_eq (nodes : List Node) :
    componentsOfNodes nodes = (nodes.filter (·.category = .component)).map ofNode := by
  induction nodes with
  | nil => rw [componentsOfNodes, List.filter_nil, List.map_nil]
  | cons n nodes ih =>
    rw [componentsOfNodes, ih]
    by_cases hc : n.category = .component <;> simp [hc]

theorem componentsOfEntries_eq (entries : List (String × List Node)) :
    componentsOfEntries entries =
      componentsOfNodes ((Entries.get? componentRelation entries).getD []) := by
  induction entries with
  | nil => rw [componentsOfEntries, Entries.get?, Option.getD_none, componentsOfNodes]
  | cons entry entries ih =>
    rw [componentsOfEntries, Entries.get?, ih]
    by_cases hr : entry.1 = componentRelation
    · simp [hr]
    · simp [hr, Ne.symm hr]

theorem componentsOfSide_eq (side : Option (List (String × List Node))) :
    componentsOfSide side =
      componentsOfNodes ((Entries.get? componentRelation (side.getD [])).getD []) := by
  cases side with
  | none => rw [componentsOfSide, Option.getD_none, Entries.get?, Option.getD_none,
      componentsOfNodes]
  | some side => rw [componentsOfSide, componentsOfEntries_eq, Option.getD_some]

/-- The components of the item of a node are the items of its components. -/
theorem ofNode_eq (n : Node) : ofNode n = { ofRoot n with
    components := ((n.linked .incoming componentRelation).filter
      (·.category = .component)).map ofNode } := by
  obtain ⟨id, types, category, attributes, ⟨incoming, outgoing, both⟩, vertexId⟩ := n
  rw [ofNode, componentsOfSide_eq, componentsOfNodes_eq]
  rfl

end DeviceItem

/-- Every link of a node to a group, a device or a component is in its item, once and in its
direction. -/
theorem Node.links_accounted (n : Node) :
    (DeviceItem.ofNode n).groups.entries.Perm (Item.declaredLinks n .group) ∧
      (DeviceItem.ofNode n).devices.entries.Perm (Item.declaredLinks n .device) ∧
      (DeviceItem.ofNode n).components = ((n.linked .incoming componentRelation).filter
        (·.category = .component)).map DeviceItem.ofNode ∧
      (DeviceItem.ofNode n).groups.entries.length + (DeviceItem.ofNode n).devices.entries.length +
        (Item.linkedNodes n .component).length = n.linkCount ∧
      (GroupItem.ofNode n).groups.entries.Perm (Item.declaredLinks n .group) := by
  have hgroups := Item.perm_entries_linkedKeys n .group
  have hdevices := Item.perm_entries_linkedKeys n .device
  have hcount : (Item.linkedKeys n .group).entries.length +
      (Item.linkedKeys n .device).entries.length + (Item.linkedNodes n .component).length =
      n.linkCount := by
    rw [hgroups.length_eq, hdevices.length_eq, Item.length_declaredLinks,
      Item.length_declaredLinks, Item.length_linkedNodes]
  rw [DeviceItem.ofNode_eq]
  exact ⟨hgroups, hdevices, rfl, hcount, hgroups⟩

end DeviceGraph
