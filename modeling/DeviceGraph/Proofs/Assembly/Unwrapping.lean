import DeviceGraph.Proofs.Assembly.WellFormed

/-!
# Properties in lists of their own

The engine may return any property as a list of one value. A record is read
through what its properties are once such lists are opened, so putting properties
into lists of their own changes neither the node nor the error. Lists are opened
once: one list of one value inside another leaves the inner one.
-/

set_option autoImplicit false

namespace DeviceGraph

def isSingleton : Json → Bool
  | .array [_] => true
  | _ => false

theorem unwrap_of_not_singleton {value : Json} (h : isSingleton value = false) :
    Assembly.unwrap value = value := by
  unfold Assembly.unwrap
  split
  · cases h
  · rfl

namespace Assembly

variable {p q : Properties}

def unwrapped? (p : Properties) (key : String) : Option Json :=
  match p.get? key with
  | some (.array [value]) => some value
  | found => found

theorem unwrapped?_eq (p : Properties) (key : String) :
    unwrapped? p key = (p.get? key).map unwrap := by
  rw [unwrapped?]
  split
  · next value hfound =>
    rw [hfound]
    rfl
  · next found hother =>
    rcases hfound : p.get? key with _ | value
    · rfl
    · have hplain : isSingleton value = false := by
        unfold isSingleton
        split
        · next element => exact absurd hfound (hother element)
        · rfl
      rw [Option.map_some, unwrap_of_not_singleton hplain]

def listed (p : Properties) (chosen : String → Bool) : Properties :=
  p.mapEntries fun key value => if chosen key then .array [value] else value

theorem unwrapped?_listed (h : ∀ entry ∈ p.entries, isSingleton entry.2 = false)
    (chosen : String → Bool) (key : String) :
    unwrapped? (listed p chosen) key = unwrapped? p key := by
  rw [unwrapped?_eq, unwrapped?_eq, listed, Dict.get?_mapEntries, Option.map_map]
  apply Option.map_congr
  intro value hv
  have hplain : unwrap value = value :=
    unwrap_of_not_singleton (h (key, value) ((p.get?_eq_some_iff key value).mp hv))
  show unwrap (if chosen key then .array [value] else value) = unwrap value
  cases chosen key with
  | true => exact hplain.symm
  | false => rfl

theorem stringProperty?_eq_some_iff (p : Properties) (key text : String) :
    stringProperty? p key = some text ↔ unwrapped? p key = some (.string text) := by
  have hvalue : ∀ value : Json, value.string? = some text ↔ value = .string text := by
    intro value
    cases value <;> simp [Json.string?]
  rw [stringProperty?, Option.bind_eq_some_iff]
  simp only [hvalue, exists_eq_right, unwrapped?_eq]

/-- A record is read through its opened properties. -/
theorem node_congr (h : ∀ key, unwrapped? p key = unwrapped? q key) : node p = node q := by
  simp only [unwrapped?_eq] at h
  have hstring : ∀ key, stringProperty? p key = stringProperty? q key := fun key =>
    congrArg (·.bind Json.string?) (h key)
  have hattributes : attributesOf p = attributesOf q := by
    apply Dict.ext_get?
    intro key
    rw [get?_attributesOf, get?_attributesOf]
    exact congrArg (if isReserved key then none else ·) (h key)
  simp only [attributesOf] at hattributes
  rw [node.eq_def, node.eq_def, hstring, hstring, hattributes]

theorem exists_node_iff (p : Properties) : (∃ n, node p = .ok n) ↔ ∃ vertexId found chain,
    unwrapped? p idProperty = some (.string vertexId) ∧
    Identity.decode vertexId = .ok found ∧
    unwrapped? p labelProperty = some (.string chain) ∧
    2 ≤ (TypeChain.split chain).length := by
  simp only [node_eq_ok_iff, ← stringProperty?_eq_some_iff]
  constructor
  · rintro ⟨_, vertexId, decoded, keys, hid, hd, hlen, _⟩
    cases hc : stringProperty? p labelProperty with
    | none =>
      rw [typesOf, hc] at hlen
      exact absurd hlen (by decide)
    | some chain =>
      rw [typesOf_of_chain hc] at hlen
      exact ⟨vertexId, _, chain, hid, hd, rfl, hlen⟩
  · rintro ⟨vertexId, ⟨decoded, keys⟩, chain, hid, hd, hc, hlen⟩
    rw [← typesOf_of_chain hc] at hlen
    exact ⟨_, vertexId, decoded, keys, hid, hd, hlen, rfl⟩

theorem get?_attributes {n : Node} (h : node p = .ok n) (key : String) :
    n.attributes.get? key = if isReserved key then none else unwrapped? p key := by
  obtain ⟨_, _, _, _, _, _, rfl⟩ := (node_eq_ok_iff p n).mp h
  rw [unwrapped?_eq]
  exact get?_attributesOf p key

/-- A list inside a list is what remains of both. -/
example : (node (.ofList [(idProperty, .string "device___b"),
    (labelProperty, .array [.string "bus::device"]), ("tags", .array [.array [.string "a"]])])).map
      (·.attributes.entries) = .ok [("tags", .array [.string "a"])] := by rfl

/-- Without lists of one value, properties may be put into lists of their own. A record is read
when its opened id is decoded and its opened chain names two types; the attributes are its other
properties, opened. -/
theorem node_reads_unwrapped (p : Properties) :
    ((∀ entry ∈ p.entries, isSingleton entry.2 = false) →
      ∀ chosen, node (listed p chosen) = node p) ∧
    ((∃ n, node p = .ok n) ↔ ∃ vertexId found chain,
      unwrapped? p idProperty = some (.string vertexId) ∧
      Identity.decode vertexId = .ok found ∧
      unwrapped? p labelProperty = some (.string chain) ∧
      2 ≤ ((TypeChain.pieces chain.toList).filter (· ≠ [])).length) ∧
    ∀ n, node p = .ok n → ∀ key, n.attributes.get? key =
      if key = idProperty ∨ key = labelProperty then none else unwrapped? p key := by
  refine ⟨fun h chosen => node_congr (unwrapped?_listed h chosen), ?_, ?_⟩
  · simp only [exists_node_iff, TypeChain.length_split]
  · intro n h key
    simp only [get?_attributes h, isReserved, Bool.or_eq_true, decide_eq_true_eq]

def taggedBus : Properties := .ofList [(idProperty, .string "device___b"),
  (labelProperty, .string "bus::device"), ("tags", .array [.string "a", .string "b"])]

theorem node_reads_unwrapped_bus :
    (∀ entry ∈ taggedBus.entries, isSingleton entry.2 = false) ∧
    ∃ n, node taggedBus = .ok n ∧ node (listed taggedBus fun _ => true) = .ok n ∧
      node (listed taggedBus (· = idProperty)) = .ok n ∧
      n.attributes.get? "tags" = some (.array [.string "a", .string "b"]) ∧
      n.attributes.get? labelProperty = none := by
  obtain ⟨hlisted, hread, hattributes⟩ := node_reads_unwrapped taggedBus
  have hplain : ∀ entry ∈ taggedBus.entries, isSingleton entry.2 = false := by decide
  obtain ⟨n, hn⟩ := hread.mpr
    ⟨"device___b", (.device, ["b"]), "bus::device", rfl, rfl, rfl, by decide⟩
  refine ⟨hplain, n, hn, ?_, ?_, ?_, ?_⟩
  · rw [hlisted hplain, hn]
  · rw [hlisted hplain, hn]
  · rw [hattributes n hn]
    rfl
  · rw [hattributes n hn]
    rfl

end Assembly

end DeviceGraph
