import DeviceGraph.Item.Device
import DeviceGraph.Item.Group
import DeviceGraph.Proofs.Assembly.Unwrapping
import DeviceGraph.Proofs.Store.Reading

/-!
# Items are read from the records of their nodes

The node of an item is written, read and turned into an item again. Every field
and every attribute survives where a record can hold it as it is: the template
keeps its place in the type chain, no attribute is `null` or a list of one value,
and none stands under a key of the record's own.
-/

set_option autoImplicit false

namespace DeviceGraph

/-! ## Plain data -/

def PlainTemplate (template : String) : Prop :=
  ¬ TypeChain.joint <:+: template.toList ∧ template.toList.getLast? ≠ some ':'

instance (template : String) : Decidable (PlainTemplate template) :=
  inferInstanceAs (Decidable (_ ∧ _))

def PlainAttributes (keys : List String) (attributes : Dict Json) : Prop :=
  ∀ entry ∈ attributes.entries,
    entry.2.isNull = false ∧ isSingleton entry.2 = false ∧ entry.1 ∉ keys

instance (keys : List String) (attributes : Dict Json) :
    Decidable (PlainAttributes keys attributes) :=
  inferInstanceAs (Decidable (∀ entry ∈ attributes.entries, _))

def Stable (attributes : Dict Json) : Prop :=
  ∀ key value, attributes.get? key = some value →
    value.isNull = false ∧ Assembly.unwrap value = value

theorem PlainAttributes.stable {keys : List String} {attributes : Dict Json}
    (h : PlainAttributes keys attributes) : Stable attributes := by
  intro key value hv
  obtain ⟨hnull, hsingle, _⟩ := h (key, value) ((attributes.get?_eq_some_iff key value).mp hv)
  exact ⟨hnull, unwrap_of_not_singleton hsingle⟩

theorem PlainAttributes.get?_eq_none {keys : List String} {attributes : Dict Json}
    (h : PlainAttributes keys attributes) {key : String} (hk : key ∈ keys) :
    attributes.get? key = none := by
  cases hv : attributes.get? key with
  | none => rfl
  | some value =>
    exact absurd hk (h (key, value) ((attributes.get?_eq_some_iff key value).mp hv)).2.2

namespace Item

theorem get?_putField (attributes : Dict Json) (key other : String) (text : Option String) :
    (putField attributes key text).get? other =
      if other = key then (text.map Json.string).or (attributes.get? key)
      else attributes.get? other := by
  cases text with
  | none => by_cases h : other = key <;> simp [putField, h]
  | some text => by_cases h : other = key <;> simp [putField, Dict.get?_insert, h]

theorem Stable.putField {attributes : Dict Json} (h : Stable attributes) (key : String)
    (text : Option String) : Stable (putField attributes key text) := by
  intro other value hv
  rw [get?_putField] at hv
  by_cases hk : other = key
  · rw [if_pos hk] at hv
    cases text with
    | none => exact h key value hv
    | some text =>
      cases hv
      exact ⟨rfl, rfl⟩
  · rw [if_neg hk] at hv
    exact h other value hv

theorem fieldText?_string (text : Option String) : fieldText? (text.map Json.string) = text := by
  cases text <;> rfl

theorem get?_without (keys : List String) (attributes : Dict Json) (key : String) :
    (without keys attributes).get? key = if key ∈ keys then none else attributes.get? key := by
  induction keys generalizing attributes with
  | nil => rfl
  | cons other keys ih =>
    have hstep : without (other :: keys) attributes = without keys (attributes.erase other) := rfl
    rw [hstep, ih, Dict.get?_erase]
    by_cases hm : key ∈ keys <;> by_cases ho : key = other <;> simp [hm, ho]

end Item

namespace Store
open Statement

/-! ## Nodes -/

structure ReadPlainly (template : String) (entity : Entity) (n : Node) : Prop where
  id : n.id = entity.1.id
  template : n.template? = some template
  unlinked : n.links = {}
  attributes : ∀ key, n.attributes.get? key =
    if key = keyPropertyOf entity.2 then some (.string entity.1.id)
    else if isReserved key then none else entity.1.attributes.get? key

theorem split_template {template : String} (hne : template ≠ "") (h : PlainTemplate template)
    (category : Category) :
    TypeChain.split (TypeChain.join [template, category.label]) = [template, category.label] := by
  apply TypeChain.split_join
  have hnil : template.toList ≠ [] := by simpa using hne
  refine ⟨hnil, h.1, h.2, ?_⟩
  cases category <;> exact ⟨by decide, by decide⟩

theorem readPlainly_of_recorded {id template : String} {category : Category}
    {attributes : Dict Json} (hne : template ≠ "") (ht : PlainTemplate template)
    (ha : Stable attributes) {record : Properties}
    (h : Recorded ({ Node.ofTemplate id template category with attributes }, category) record) :
    ∃ n, Assembly.node record = .ok n ∧ ReadPlainly template
      ({ Node.ofTemplate id template category with attributes }, category) n := by
  obtain ⟨vertexId, keys, hd, hk, rfl⟩ := h
  have hsplit := split_template hne ht category
  refine ⟨_, by
    rw [Assembly.node_vertexRecord hd _ (not_isReserved_keyPropertyOf category)]
    exact if_neg (by rw [Node.typeChain, Node.ofTemplate, hsplit]; simp), ?_⟩
  refine ⟨hk, ?_, rfl, fun key => ?_⟩
  · show (TypeChain.split (TypeChain.join [template, category.label])).head? = some template
    rw [hsplit]
    rfl
  · show (Assembly.attributesOf (vertexRecord _ _ _)).get? key = _
    rw [Assembly.get?_attributesOf_vertexRecord vertexId _
      (not_isReserved_keyPropertyOf category),
      get?_creationProperties]
    by_cases hkey : key = keyPropertyOf category
    · rw [if_pos hkey, if_pos hkey]
      rfl
    · rw [if_neg hkey, if_neg hkey]
      cases hv : attributes.get? key with
      | none => simp
      | some value =>
        obtain ⟨hnull, hunwrap⟩ := ha key value hv
        cases hr : isReserved key <;> simp [hnull, hunwrap]

end Store

/-- What is left of the read attributes once the fields of an item are taken out. -/
theorem Item.without_eq {keyProperty : String} {fields : List String} {value : Option Json}
    {read written plain : Dict Json}
    (hread : ∀ key, read.get? key = if key = keyProperty then value
      else if isReserved key then none else written.get? key)
    (hwritten : ∀ key, key ∉ fields → written.get? key = plain.get? key)
    (hplain : PlainAttributes (idProperty :: labelProperty :: keyProperty :: fields) plain) :
    Item.without (keyProperty :: fields) read = plain := by
  apply Dict.ext_get?
  intro key
  rw [Item.get?_without]
  by_cases hm : key ∈ keyProperty :: fields
  · rw [if_pos hm, hplain.get?_eq_none (List.mem_cons_of_mem _ (List.mem_cons_of_mem _ hm))]
  · obtain ⟨hk, hf⟩ := not_or.mp (mt List.mem_cons.mpr hm)
    rw [if_neg hm, hread, if_neg hk, hwritten key hf]
    cases hr : isReserved key with
    | false => rfl
    | true =>
      have hkeys : key = idProperty ∨ key = labelProperty := by simpa [isReserved] using hr
      rw [hplain.get?_eq_none (by rcases hkeys with rfl | rfl <;> simp)]
      rfl

/-! ## Devices and components -/

namespace DeviceItem

/-- An item whose data a record can hold as it is. -/
structure Plain (item : DeviceItem) : Prop where
  template : PlainTemplate item.templateId
  attributes : PlainAttributes
    [idProperty, labelProperty, Store.Devices.keyProperty, descriptionKey, stateKey] item.attributes

def alone (item : DeviceItem) : DeviceItem :=
  { item with groups := {}, devices := {}, components := [] }

theorem ofNode_of_unlinked {n : Node} (h : n.links = {}) : ofNode n =
    { deviceId := n.id
      templateId := n.template?.getD ""
      description := Item.fieldText? (n.attributes.get? descriptionKey)
      state := Item.fieldText? (n.attributes.get? stateKey)
      attributes :=
        Item.without [Store.Devices.keyProperty, descriptionKey, stateKey] n.attributes } := by
  obtain ⟨id, types, category, attributes, links, vertexId⟩ := n
  cases h
  rfl

theorem ofNode_of_recorded {item : DeviceItem} {category : Category} (hc : category ≠ .group)
    (hne : item.templateId ≠ "") (h : item.Plain) {record : Properties}
    (hr : Store.Recorded (item.toNode category, category) record) :
    ∃ n, Assembly.node record = .ok n ∧ ofNode n = item.alone := by
  have hkey : Store.keyPropertyOf category = Store.Devices.keyProperty := by
    cases category <;> first | rfl | exact absurd rfl hc
  have hstable : Stable (Item.putField (Item.putField item.attributes descriptionKey
      item.description) stateKey item.state) :=
    Item.Stable.putField (Item.Stable.putField h.attributes.stable _ _) _ _
  obtain ⟨n, hn, hread⟩ := Store.readPlainly_of_recorded hne h.template hstable hr
  have hget := hread.attributes
  simp only [hkey] at hget
  refine ⟨n, hn, ?_⟩
  rw [ofNode_of_unlinked hread.unlinked, hread.id, hread.template, alone]
  have hdescription : n.attributes.get? descriptionKey = item.description.map Json.string := by
    rw [hget, if_neg (by decide), if_neg (by decide), Item.get?_putField, if_neg (by decide),
      Item.get?_putField, if_pos rfl, h.attributes.get?_eq_none (by decide), Option.or_none]
  have hstate : n.attributes.get? stateKey = item.state.map Json.string := by
    rw [hget, if_neg (by decide), if_neg (by decide), Item.get?_putField, if_pos rfl,
      Item.get?_putField, if_neg (by decide), h.attributes.get?_eq_none (by decide),
      Option.or_none]
  have hothers : Item.without [Store.Devices.keyProperty, descriptionKey, stateKey] n.attributes =
      item.attributes := by
    refine Item.without_eq hget (fun key hk => ?_) h.attributes
    obtain ⟨hd, hs⟩ : key ≠ descriptionKey ∧ key ≠ stateKey := by simpa using hk
    rw [Item.get?_putField, if_neg hs, Item.get?_putField, if_neg hd]
  rw [hdescription, hstate, hothers, Item.fieldText?_string, Item.fieldText?_string]
  rfl

end DeviceItem

/-! ## Groups -/

namespace GroupItem

structure Plain (item : GroupItem) : Prop where
  template : PlainTemplate item.templateId
  attributes : PlainAttributes [idProperty, labelProperty, Store.Groups.keyProperty, nameKey,
    Store.Groups.parentProperty, descriptionKey] item.attributes

def alone (item : GroupItem) : GroupItem := { item with groupPath := item.path, groups := {} }

theorem linkedKeys_of_unlinked {n : Node} (h : n.links = {}) (category : Category) :
    Item.linkedKeys n category = {} := by
  rw [Item.linkedKeys, h]
  rfl

theorem getD_nonempty? (text : String) : (nonempty? text).getD "" = text := by
  by_cases h : text = "" <;> simp [nonempty?, h]

theorem ofNode_of_recorded {item : GroupItem} (hne : item.templateId ≠ "") (h : item.Plain)
    {record : Properties} (hr : Store.Recorded (item.toNode, .group) record) :
    ∃ n, Assembly.node record = .ok n ∧ ofNode n = item.alone := by
  have hstable : Stable (Item.putField (Item.putField (Item.putField item.attributes nameKey
      (nonempty? item.name)) Store.Groups.parentProperty (nonempty? item.parentPath))
      descriptionKey item.description) :=
    Item.Stable.putField (Item.Stable.putField
      (Item.Stable.putField h.attributes.stable _ _) _ _) _ _
  obtain ⟨n, hn, hread⟩ := Store.readPlainly_of_recorded hne h.template hstable hr
  have hkey : Store.keyPropertyOf .group = Store.Groups.keyProperty := rfl
  have hget := hread.attributes
  simp only [hkey] at hget
  refine ⟨n, hn, ?_⟩
  have hname : n.attributes.get? nameKey = (nonempty? item.name).map Json.string := by
    rw [hget, if_neg (by decide), if_neg (by decide), Item.get?_putField, if_neg (by decide),
      Item.get?_putField, if_neg (by decide), Item.get?_putField, if_pos rfl,
      h.attributes.get?_eq_none (by decide), Option.or_none]
  have hparent : n.attributes.get? Store.Groups.parentProperty =
      (nonempty? item.parentPath).map Json.string := by
    rw [hget, if_neg (by decide), if_neg (by decide), Item.get?_putField, if_neg (by decide),
      Item.get?_putField, if_pos rfl, Item.get?_putField, if_neg (by decide),
      h.attributes.get?_eq_none (by decide), Option.or_none]
  have hdescription : n.attributes.get? descriptionKey = item.description.map Json.string := by
    rw [hget, if_neg (by decide), if_neg (by decide), Item.get?_putField, if_pos rfl,
      Item.get?_putField, if_neg (by decide), Item.get?_putField, if_neg (by decide),
      h.attributes.get?_eq_none (by decide), Option.or_none]
  have hothers : Item.without [Store.Groups.keyProperty, nameKey, Store.Groups.parentProperty,
      descriptionKey] n.attributes = item.attributes := by
    refine Item.without_eq hget (fun key hk => ?_) h.attributes
    obtain ⟨hm, hp, hd⟩ : key ≠ nameKey ∧ key ≠ Store.Groups.parentProperty ∧
        key ≠ descriptionKey := by simpa using hk
    rw [Item.get?_putField, if_neg hd, Item.get?_putField, if_neg hp, Item.get?_putField,
      if_neg hm]
  rw [ofNode, hread.id, hread.template, hname, hparent, hdescription, hothers,
    linkedKeys_of_unlinked hread.unlinked, Item.fieldText?_string, Item.fieldText?_string,
    Item.fieldText?_string, getD_nonempty?, getD_nonempty?]
  rfl

end GroupItem

end DeviceGraph
