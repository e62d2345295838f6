import DeviceGraph.Proofs.Assembly.Node
import DeviceGraph.Proofs.Identity
import DeviceGraph.Proofs.Links
import DeviceGraph.Proofs.TypeChain

/-!
# Nodes are well formed

Whatever rows the engine answers with, a node that is made from them has types,
an id and a category that go with its vertex id, and none of the properties that
the library keeps for itself. Vertices become nodes without links, and links are
only ever added to the node that a row is about.
-/

set_option autoImplicit false

namespace DeviceGraph

/-! ## Nodes -/

namespace Node

def namedCategory (types : List String) (decoded : Category) : Category :=
  if "group" ∈ types then .group
  else if "component" ∈ types then .component
  else if "device" ∈ types then .device
  else decoded

/-- What every node satisfies that was made from a vertex. -/
structure WellFormed (n : Node) : Prop where
  typed : 2 ≤ n.types.length
  types : ∀ type ∈ n.types, type ≠ "" ∧ ¬ TypeChain.joint <:+: type.toList
  identity : ∃ vertexId decoded keys, n.vertexId = some vertexId ∧
    Identity.decode vertexId = .ok (decoded, keys) ∧ keys.getLast? = some n.id ∧
    n.category = namedCategory n.types decoded
  attributes : "id" ∉ n.attributes.keys ∧ "label" ∉ n.attributes.keys

structure Leaf (n : Node) : Prop where
  wellFormed : n.WellFormed
  unlinked : n.links = {}

structure Rooted (n : Node) : Prop where
  wellFormed : n.WellFormed
  linked : ∀ other ∈ n.links.targets, other.Leaf

theorem Leaf.rooted {n : Node} (h : n.Leaf) : n.Rooted where
  wellFormed := h.wellFormed
  linked := fun other hm => by
    rw [h.unlinked] at hm
    exact absurd hm List.not_mem_nil

theorem Rooted.addLink {n other : Node} (h : n.Rooted) (direction : Direction) (relation : String)
    (ho : other.Leaf) : (n.addLink direction relation other).Rooted where
  wellFormed := ⟨h.wellFormed.typed, h.wellFormed.types, h.wellFormed.identity,
    h.wellFormed.attributes⟩
  linked := fun target hm => (Links.mem_targets_add hm).elim (· ▸ ho) (h.linked target)

end Node

theorem Category.ofTypes?_getD (types : List String) (decoded : Category) :
    (ofTypes? types).getD decoded = Node.namedCategory types decoded := by
  by_cases hg : "group" ∈ types <;> by_cases hc : "component" ∈ types <;>
    by_cases hd : "device" ∈ types <;>
    simp [ofTypes?, Node.namedCategory, label, hg, hc, hd]

theorem Identity.getLast?_of_decode {id : String} {category : Category} {keys : List String}
    (h : decode id = .ok (category, keys)) : keys.getLast? = some (keys.getLastD "") := by
  have hcount := ((decode_eq_ok_iff category keys id).mp h).count
  cases keys with
  | nil => cases category <;> simp [keyCount] at hcount
  | cons key rest => simp [List.getLast?_cons]

namespace Assembly
open Checks

def typesOf (properties : Properties) : List String :=
  TypeChain.split ((stringProperty? properties labelProperty).getD "")

theorem typesOf_of_chain {properties : Properties} {chain : String}
    (h : stringProperty? properties labelProperty = some chain) :
    typesOf properties = TypeChain.split chain := by
  rw [typesOf, h]
  rfl

/-- A vertex is read when its id can be decoded and its chain holds two types. -/
theorem node_eq_ok_iff (properties : Properties) (n : Node) :
    node properties = .ok n ↔ ∃ vertexId decoded keys,
      stringProperty? properties idProperty = some vertexId ∧
      Identity.decode vertexId = .ok (decoded, keys) ∧ 2 ≤ (typesOf properties).length ∧ n = {
        id := keys.getLastD ""
        types := typesOf properties
        category := (Category.ofTypes? (typesOf properties)).getD decoded
        attributes := attributesOf properties
        vertexId := some vertexId } := by
  rw [node.eq_def]
  constructor
  · intro h
    split at h
    · cases h
    · next vertexId hid =>
      obtain ⟨⟨decoded, keys⟩, hd, h⟩ := (bind_eq_ok_iff _ _ _).mp h
      dsimp only at h
      split at h
      · cases h
      · next hlen =>
        exact ⟨vertexId, decoded, keys, hid, (mapError_eq_ok_iff _ _ _).mp hd,
          Nat.le_of_not_lt hlen, (Except.ok.inj h).symm⟩
  · rintro ⟨vertexId, decoded, keys, hid, hd, hlen, rfl⟩
    rw [hid]
    refine (bind_eq_ok_iff _ _ _).mpr ⟨(decoded, keys), (mapError_eq_ok_iff _ _ _).mpr hd, ?_⟩
    exact if_neg (Nat.not_lt.mpr hlen)

theorem not_mem_keys_attributesOf (properties : Properties) {key : String}
    (h : isReserved key = true) : key ∉ (attributesOf properties).keys := by
  rw [← Dict.get?_eq_none_iff, get?_attributesOf, if_pos h]

/-- A vertex becomes a well-formed node without links. -/
theorem node_leaf {properties : Properties} {n : Node} (h : node properties = .ok n) : n.Leaf := by
  obtain ⟨vertexId, decoded, keys, _, hd, hlen, rfl⟩ := (node_eq_ok_iff properties n).mp h
  refine ⟨?_, rfl⟩
  exact {
    typed := hlen
    types := fun type hm => TypeChain.of_mem_split hm
    identity := ⟨vertexId, decoded, keys, rfl, hd, Identity.getLast?_of_decode hd,
      Category.ofTypes?_getD _ _⟩
    attributes := ⟨not_mem_keys_attributesOf properties (by decide),
      not_mem_keys_attributesOf properties (by decide)⟩ }

/-- Along the paths links are added one after the other, whichever edges were seen before. -/
theorem linkPaths_rooted {own : String} {edges : List EdgeRow} {vertices : List Properties}
    {seen : List String} {paths : List PathRow} {n m : Node} (hn : n.Rooted)
    (h : linkPaths own edges vertices seen paths n = .ok m) : m.Rooted := by
  fun_induction linkPaths own edges vertices seen paths n with
  | case1 seen n => exact Except.ok.inj h ▸ hn
  | case2 seen n path rest hs ih => exact ih hn h
  | case3 seen n path rest hs edge vertex hv he ih =>
    obtain ⟨other, ho, h⟩ := (bind_eq_ok_iff _ _ _).mp h
    exact ih other (hn.addLink _ _ (node_leaf ho)) h
  | case4 seen n path rest hs hmissing ih => exact ih hn h

theorem projection_rooted {row : Projection} {n : Node} (h : projection row = .ok n) :
    n.Rooted := by
  obtain ⟨root, hr, h⟩ := (bind_eq_ok_iff _ _ _).mp h
  exact linkPaths_rooted (node_leaf hr).rooted h

theorem linkRelated_rooted {row : RelatedRow} {n m : Node} (hn : n.Rooted)
    (h : linkRelated n row = .ok m) : m.Rooted := by
  obtain ⟨other, ho, h⟩ := (bind_eq_ok_iff _ _ _).mp h
  obtain rfl := (pure_eq_ok_iff _ _).mp h
  exact hn.addLink _ _ (node_leaf ho)

theorem linkToOwner_rooted {row : RelatedRow} {ns ms : List Node} (hn : ∀ n ∈ ns, n.Rooted)
    (h : linkToOwner row ns = .ok ms) : ∀ m ∈ ms, m.Rooted := by
  fun_induction linkToOwner row ns generalizing ms with
  | case1 => exact Except.ok.inj h ▸ hn
  | case2 n rest howner =>
    obtain ⟨hfirst, hrest⟩ := List.forall_mem_cons.mp hn
    obtain ⟨m, hm, h⟩ := (bind_eq_ok_iff _ _ _).mp h
    obtain rfl := (pure_eq_ok_iff _ _).mp h
    exact List.forall_mem_cons.mpr ⟨linkRelated_rooted hfirst hm, hrest⟩
  | case3 n rest howner ih =>
    obtain ⟨hfirst, hrest⟩ := List.forall_mem_cons.mp hn
    obtain ⟨others, ho, h⟩ := (bind_eq_ok_iff _ _ _).mp h
    obtain rfl := (pure_eq_ok_iff _ _).mp h
    exact List.forall_mem_cons.mpr ⟨hfirst, ih hrest ho⟩

theorem nodes_rooted {rows : List Row} {ns : List Node} (h : nodes rows = .ok ns) :
    ∀ n ∈ ns, n.Rooted := by
  obtain ⟨found, hf, h⟩ := (bind_eq_ok_iff _ _ _).mp h
  have hfound : ∀ n ∈ found, n.Rooted :=
    forall_mem_of_mapM (fun _ _ hn => (node_leaf hn).rooted) hf
  exact invariant_of_foldlM (p := fun ns => ∀ n ∈ ns, n.Rooted)
    (fun _ _ _ hns hlink => linkToOwner_rooted hns hlink) hfound h

theorem nodeOfRow_rooted {row : Json} {n : Node} (h : nodeOfRow row = .ok n) : n.Rooted := by
  obtain ⟨_, _, h⟩ := (bind_eq_ok_iff _ _ _).mp h
  exact (node_leaf h).rooted

theorem projectionOfRow_rooted {row : Json} {n : Node} (h : projectionOfRow row = .ok n) :
    n.Rooted := by
  obtain ⟨_, _, h⟩ := (bind_eq_ok_iff _ _ _).mp h
  exact projection_rooted h

end Assembly

end DeviceGraph
