import DeviceGraph.Assembly.Node
import DeviceGraph.Proofs.Statement.Records

/-!
# New records are read

The record of a new vertex holds its id, its type chain, its natural key and
those attributes that are neither `null` nor reserved, and nothing else. What is
read from it depends only on the types that its chain is cut into.
-/

set_option autoImplicit false

namespace DeviceGraph

namespace Statement

variable {keyProperty : String}

theorem get?_creationProperties (node : Node) (keyProperty key : String) :
    (creationProperties node keyProperty).get? key =
      if key = keyProperty then some (.string node.id)
      else (node.attributes.get? key).filter fun value => !value.isNull && !isReserved key := by
  rw [creationProperties, Dict.get?_insert, Dict.get?_filter]

theorem not_isNull_of_creationProperties {node : Node} {key : String} {value : Json}
    (h : (creationProperties node keyProperty).get? key = some value) : value.isNull = false := by
  rw [get?_creationProperties] at h
  by_cases hk : key = keyProperty
  · rw [if_pos hk] at h
    cases h
    rfl
  · rw [if_neg hk] at h
    obtain ⟨_, hkeep⟩ := Option.filter_eq_some_iff.mp h
    exact (by simpa using hkeep : value.isNull = false ∧ _).1

theorem get?_creationProperties_of_reserved (node : Node) (hk : isReserved keyProperty = false)
    {key : String} (h : isReserved key = true) :
    (creationProperties node keyProperty).get? key = none := by
  have hne : key ≠ keyProperty := by
    rintro rfl
    rw [h] at hk
    cases hk
  rw [get?_creationProperties, if_neg hne]
  cases node.attributes.get? key <;> simp [h]

theorem get?_vertexRecord (vertexId : String) (node : Node) (hk : isReserved keyProperty = false)
    (key : String) : (vertexRecord vertexId node keyProperty).get? key =
      if key = idProperty then some (.string vertexId)
      else if key = labelProperty then some (.string node.typeChain)
      else (creationProperties node keyProperty).get? key := by
  rw [vertexRecord, Properties.get?_merge]
  by_cases hid : key = idProperty
  · rw [if_pos hid, get?_creationProperties_of_reserved node hk (by simp [isReserved, hid])]
    simp [Properties.get?_put, hid, idProperty, labelProperty, Json.isNull]
  · rw [if_neg hid]
    by_cases hlabel : key = labelProperty
    · rw [if_pos hlabel, get?_creationProperties_of_reserved node hk (by simp [isReserved, hlabel])]
      simp [Properties.get?_put, hlabel, Json.isNull]
    · rw [if_neg hlabel]
      cases hc : (creationProperties node keyProperty).get? key with
      | none => simp [Properties.get?_put, hid, hlabel]
      | some value => simp [not_isNull_of_creationProperties hc]

end Statement

namespace Assembly
open Statement

def attributesOf (properties : Properties) : Dict Json :=
  (properties.filter fun key _ => !isReserved key).map unwrap

theorem get?_attributesOf (properties : Properties) (key : String) :
    (attributesOf properties).get? key =
      if isReserved key then none else (properties.get? key).map unwrap := by
  rw [attributesOf, Dict.get?_map, Dict.get?_filter]
  cases properties.get? key <;> cases isReserved key <;> rfl

theorem get?_attributesOf_vertexRecord (vertexId : String) (n : Node) {keyProperty : String}
    (hk : isReserved keyProperty = false) (key : String) :
    (attributesOf (vertexRecord vertexId n keyProperty)).get? key =
      ((creationProperties n keyProperty).get? key).map unwrap := by
  rw [get?_attributesOf]
  cases hr : isReserved key with
  | true =>
    rw [get?_creationProperties_of_reserved n hk hr]
    rfl
  | false =>
    have hne : key ≠ idProperty ∧ key ≠ labelProperty := by simpa [isReserved] using hr
    rw [get?_vertexRecord vertexId n hk, if_neg hne.1, if_neg hne.2]
    rfl

/-- A new record is read as a node with the last key of its id, the types of its chain,
and the category that these name, else the one of its id. -/
theorem node_vertexRecord {vertexId : String} {category : Category} {keys : List String}
    (hd : Identity.decode vertexId = .ok (category, keys)) (n : Node) {keyProperty : String}
    (hk : isReserved keyProperty = false) :
    node (vertexRecord vertexId n keyProperty) =
      if (TypeChain.split n.typeChain).length < 2 then
        .error (.domain (.invalidLabels vertexId (TypeChain.split n.typeChain)))
      else .ok {
        id := keys.getLastD ""
        types := TypeChain.split n.typeChain
        category := (Category.ofTypes? (TypeChain.split n.typeChain)).getD category
        attributes := attributesOf (vertexRecord vertexId n keyProperty)
        vertexId := some vertexId } := by
  have hid : stringProperty? (vertexRecord vertexId n keyProperty) idProperty = some vertexId := by
    rw [stringProperty?, get?_vertexRecord vertexId n hk, if_pos rfl]
    rfl
  have hlabel : stringProperty? (vertexRecord vertexId n keyProperty) labelProperty =
      some n.typeChain := by
    rw [stringProperty?, get?_vertexRecord vertexId n hk, if_neg (by decide), if_pos rfl]
    rfl
  rw [node.eq_def, hid, hlabel]
  simp only [liftDomain, hd]
  rfl

end Assembly

end DeviceGraph
