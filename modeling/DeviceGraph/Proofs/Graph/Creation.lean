import DeviceGraph.Proofs.Graph.Building
import DeviceGraph.Proofs.Store.Layout

/-!
# What a creation adds to a graph

A creation first puts vertices into the graph, with the edges that belong to them, and then
draws the declared relations of the first of them. It only adds: vertices, each with the
record of an entity that is created, and edges. How many there are depends on how many
vertices have the id of the device that a component belongs to, or of the group above a new
one.
-/

set_option autoImplicit false

namespace DeviceGraph

structure Mount where
  var : String
  vertex : Vertex
  edgeId : Json

def Scene.mount (σ : Scene) (m : Mount) : Scene :=
  (σ.create m.var m.vertex).link m.var componentRelation "v" m.edgeId

namespace Store
open Statement

def RecordOf (entities : List Entity) (properties : Properties) : Prop :=
  ∃ entity ∈ entities, Recorded entity properties

structure VertexOf (entity : Entity) (vertexId : String) (v : Vertex) : Prop where
  recorded : Recorded entity v.properties
  id : v.properties.get? idProperty = some (.string vertexId)

structure MountOf (component : Node) (m : Mount) : Prop where
  recorded : Recorded (component, .component) m.vertex.properties
  var : ∃ n, m.var = numbered "c" n

theorem vertexOf_record {node : Node} {category : Category} {keys : List String}
    {vertexId : String} (labels : List String) (hid : Identity.encode category keys = .ok vertexId)
    (hk : keys.getLastD "" = node.id) : VertexOf (node, category) vertexId
      ⟨labels, vertexRecord vertexId node (keyPropertyOf category)⟩ where
  recorded := recorded_of_encode hid hk
  id := by rw [get?_vertexRecord _ _ (not_isReserved_keyPropertyOf category), if_pos rfl]

/-! ## Devices and components -/

theorem acts_create {s t : Statement} (hs : s.Fresh) {var vertexId : String} {node : Node}
    {category : Category} {keys : List String}
    (hid : Identity.encode category keys = .ok vertexId) (hk : keys.getLastD "" = node.id)
    (h : s.createVertex var vertexId node category (keyPropertyOf category) = .ok t) :
    ∃ v, VertexOf (node, category) vertexId v ∧ Acts (fun σ τ => τ = σ.create var v) s t := by
  obtain ⟨labels, _, hacts⟩ := acts_createVertex hs h
  exact ⟨_, vertexOf_record _ hid hk, hacts⟩

theorem Devices.acts_createComponents {ids : EdgeIds} {device : String} {components : List Node}
    {s t : Statement} {i : Nat} (hs : s.Fresh)
    (h : createComponents ids device s i components = .ok t) :
    ∃ mounts, List.Forall₂ MountOf components mounts ∧
      Acts (fun σ τ => τ = mounts.foldl Scene.mount σ) s t := by
  induction components generalizing s i with
  | nil =>
    cases h
    exact ⟨[], .nil, .refl hs⟩
  | cons component rest ih =>
    obtain ⟨vertexId, hid, h⟩ := (Checks.bind_eq_ok_iff _ _ _).mp h
    obtain ⟨s₁, hcreate, h⟩ := (Checks.bind_eq_ok_iff _ _ _).mp h
    obtain ⟨v, hv, hvertex⟩ := acts_create hs (liftDomain_ok hid) rfl hcreate
    have hedge := acts_createEdge hvertex.fresh ids ("c" ++ decimalText i) componentIdentifier "v"
    obtain ⟨mounts, hmounts, hrest⟩ := ih hedge.fresh h
    let m : Mount := ⟨"c" ++ decimalText i, v, .string (ids s₁.issued)⟩
    exact ⟨m :: mounts, .cons ⟨hv.recorded, i, rfl⟩ hmounts, (hvertex.andThen hedge).andThen hrest⟩

theorem Devices.acts_createStatement {ids : EdgeIds} {device : Node} {groups devices : Relations}
    {components : List Node} {vertexId : String} {s : Statement}
    (h : createStatement ids device groups devices components = .ok (vertexId, s)) :
    ∃ v mounts ds, VertexOf (device, .device) vertexId v ∧
      List.Forall₂ MountOf components mounts ∧
      List.Forall₂ Drawing.Of (declared Identity.groupId groups.entries ++
        declared Identity.deviceId devices.entries) ds ∧
      Acts (fun σ τ => τ = ds.foldl (Scene.draw "v") (mounts.foldl Scene.mount (σ.create "v" v)))
        { access := .write } s := by
  obtain ⟨id, hid, h⟩ := (Checks.bind_eq_ok_iff _ _ _).mp h
  obtain ⟨s₁, hcreate, h⟩ := (Checks.bind_eq_ok_iff _ _ _).mp h
  obtain ⟨s₂, hcomponents, h⟩ := (Checks.bind_eq_ok_iff _ _ _).mp h
  obtain ⟨s₃, hgroups, h⟩ := (Checks.bind_eq_ok_iff _ _ _).mp h
  obtain ⟨s₄, hdevices, h⟩ := (Checks.bind_eq_ok_iff _ _ _).mp h
  cases h
  obtain ⟨v, hv, hvertex⟩ := acts_create fresh_start (liftDomain_ok hid) rfl hcreate
  obtain ⟨mounts, hmounts, hmore⟩ := acts_createComponents hvertex.fresh hcomponents
  obtain ⟨ds, hds, hlinks⟩ := acts_linkAll hmore.fresh hgroups
  obtain ⟨ds', hds', hothers⟩ := acts_linkAll hlinks.fresh hdevices
  refine ⟨v, mounts, ds ++ ds', hv, hmounts, List.rel_append hds hds', ?_⟩
  simp only [List.foldl_append]
  exact ((hvertex.andThen hmore).andThen hlinks).andThen hothers

theorem Devices.acts_createComponentStatement {ids : EdgeIds} {device : String} {component : Node}
    {vertexId : String} {s : Statement}
    (h : createComponentStatement ids device component = .ok (vertexId, s)) :
    ∃ v label deviceId edgeId, VertexOf (component, .component) vertexId v ∧
      Acts (fun σ τ => τ = ((σ.find "d" label deviceId).create "c" v).link "c" componentRelation
        "d" edgeId) { access := .write } s := by
  obtain ⟨deviceId, _, h⟩ := (Checks.bind_eq_ok_iff _ _ _).mp h
  obtain ⟨id, hid, h⟩ := (Checks.bind_eq_ok_iff _ _ _).mp h
  obtain ⟨⟨s₁, root⟩, hroot, h⟩ := (Checks.bind_eq_ok_iff _ _ _).mp h
  obtain ⟨s₂, hcreate, h⟩ := (Checks.bind_eq_ok_iff _ _ _).mp h
  cases h
  obtain ⟨category, keys, _, hfind⟩ := acts_find fresh_start hroot
  obtain ⟨v, hv, hvertex⟩ := acts_create hfind.fresh (liftDomain_ok hid) rfl hcreate
  have hedge := acts_createEdge hvertex.fresh ids "c" componentIdentifier "d"
  exact ⟨v, category.label, .string deviceId, .string (ids s₂.issued), hv,
    (hfind.andThen hvertex).andThen hedge⟩

/-! ## Groups -/

namespace Groups

def place (σ : Scene) (v : Vertex) (edgeId : Json) : Option String → Scene
  | none => σ.create "v" v
  | some parentId => ((σ.find "parent" Category.group.label (.string parentId)).create "v" v).link
      "v" parentRelation "parent" edgeId

theorem acts_findParent {s t : Statement} (hs : s.Fresh) {path : String}
    (h : findParent s (some path) = .ok t) :
    ∃ parentId, Identity.groupId path = .ok parentId ∧
      Acts (fun σ τ => τ = σ.find "parent" Category.group.label (.string parentId)) s t := by
  obtain ⟨parentId, hid, h⟩ := (Checks.bind_eq_ok_iff _ _ _).mp h
  obtain ⟨⟨s₁, pattern⟩, hv, h⟩ := (Checks.bind_eq_ok_iff _ _ _).mp h
  cases h
  obtain ⟨category, keys, hd, hacts⟩ := acts_find hs hv
  have hgroup := Identity.decode_of_encode (liftDomain_ok hid)
  rw [hgroup] at hd
  cases hd
  exact ⟨parentId, liftDomain_ok hid, hacts⟩

/-- A group is placed beneath the groups above it, and then gets its declared links. -/
theorem acts_createStatement {ids : EdgeIds} {group : Node} {groups : Relations}
    {vertexId : String} {s : Statement}
    (h : createStatement ids group groups = .ok (vertexId, s)) :
    Identity.groupId group.id = .ok vertexId ∧ ∃ labels edgeId parentId? ds,
      Option.Rel (fun path parentId => Identity.groupId path = .ok parentId) (parentPath? group)
        parentId? ∧
      List.Forall₂ Drawing.Of (declared Identity.groupId groups.entries) ds ∧
      Acts (fun σ τ => τ = ds.foldl (Scene.draw "v")
        (place σ ⟨labels, vertexRecord vertexId group keyProperty⟩ edgeId parentId?))
        { access := .write } s := by
  obtain ⟨id, hid, h⟩ := (Checks.bind_eq_ok_iff _ _ _).mp h
  obtain ⟨s₁, hparent, h⟩ := (Checks.bind_eq_ok_iff _ _ _).mp h
  obtain ⟨s₂, hcreate, h⟩ := (Checks.bind_eq_ok_iff _ _ _).mp h
  obtain ⟨s₃, hlinks, h⟩ := (Checks.bind_eq_ok_iff _ _ _).mp h
  cases h
  refine ⟨liftDomain_ok hid, ?_⟩
  cases hp : parentPath? group with
  | none =>
    rw [hp] at hparent hlinks
    cases hparent
    obtain ⟨labels, _, hvertex⟩ := acts_createVertex fresh_start hcreate
    obtain ⟨ds, hds, hmore⟩ := acts_linkAll hvertex.fresh hlinks
    exact ⟨_, .null, none, ds, .none, hds, hvertex.andThen hmore⟩
  | some path =>
    rw [hp] at hparent hlinks
    obtain ⟨parentId, hparentId, hfind⟩ := acts_findParent fresh_start hparent
    obtain ⟨labels, _, hvertex⟩ := acts_createVertex hfind.fresh hcreate
    have hedge := acts_createEdge hvertex.fresh ids "v" parentIdentifier "parent"
    obtain ⟨ds, hds, hmore⟩ := acts_linkAll hedge.fresh hlinks
    exact ⟨_, _, some parentId, ds, .some hparentId, hds,
      ((hfind.andThen hvertex).andThen hedge).andThen hmore⟩

theorem adds_place (σ : Scene) {v : Vertex} {Kind : Properties → Prop} (hv : Kind v.properties)
    (edgeId : Json) (parentId? : Option String) :
    Scene.Adds Kind σ (place σ v edgeId parentId?) := by
  cases parentId? with
  | none => exact σ.adds_create "v" hv
  | some parentId =>
    let found := σ.find "parent" Category.group.label (.string parentId)
    have hcreate : Scene.Adds Kind σ (found.create "v" v) := found.adds_create "v" hv
    exact hcreate.trans ((found.create "v" v).adds_link _ _ _ _)

end Groups

/-! ## Any creation -/

theorem adds_mountAll (σ : Scene) {entities : List Entity} {components : List Node}
    {mounts : List Mount} (hmounts : List.Forall₂ MountOf components mounts)
    (hm : ∀ component ∈ components, (component, Category.component) ∈ entities) :
    Scene.Adds (RecordOf entities) σ (mounts.foldl Scene.mount σ) := by
  induction hmounts generalizing σ with
  | nil => exact .refl σ
  | @cons component m components mounts hmount _ ih =>
    obtain ⟨hcomponent, hrest⟩ := List.forall_mem_cons.mp hm
    have hcreate : Scene.Adds (RecordOf entities) σ (σ.create m.var m.vertex) :=
      σ.adds_create m.var ⟨_, hcomponent, hmount.recorded⟩
    exact (hcreate.trans (Scene.adds_link _ _ _ _ _)).trans (ih (σ.mount m) hrest)

namespace Creation

def Founds (c : Creation) (vertexId : String) (found : Scene → Scene) : Prop :=
  match c with
  | device node _ _ components => ∃ v mounts, VertexOf (node, .device) vertexId v ∧
      List.Forall₂ MountOf components mounts ∧
      found = fun σ => mounts.foldl Scene.mount (σ.create "v" v)
  | component _ node => ∃ v label deviceId edgeId, VertexOf (node, .component) vertexId v ∧
      found = fun σ => ((σ.find "d" label deviceId).create "c" v).link "c" componentRelation "d"
        edgeId
  | group node _ => ∃ v edgeId parentId?, VertexOf (node, .group) vertexId v ∧
      found = fun σ => Groups.place σ v edgeId parentId?

theorem acts_of_make {c : Creation} {ids : EdgeIds} {vertexId : String} {s : Statement}
    (h : c.make ids = .ok (vertexId, s)) :
    ∃ found ds, c.Founds vertexId found ∧ List.Forall₂ Drawing.Of c.declared ds ∧
      Acts (fun σ τ => τ = ds.foldl (Scene.draw c.var) (found σ)) { access := .write } s := by
  cases c with
  | device =>
    obtain ⟨v, mounts, ds, hv, hmounts, hds, hacts⟩ := Devices.acts_createStatement h
    exact ⟨_, ds, ⟨v, mounts, hv, hmounts, rfl⟩, hds, hacts⟩
  | component =>
    obtain ⟨v, label, deviceId, edgeId, hv, hacts⟩ := Devices.acts_createComponentStatement h
    exact ⟨_, [], ⟨v, label, deviceId, edgeId, hv, rfl⟩, .nil, hacts⟩
  | group node groups =>
    obtain ⟨hid, labels, edgeId, parentId?, ds, _, hds, hacts⟩ := Groups.acts_createStatement h
    exact ⟨_, ds, ⟨_, edgeId, parentId?, vertexOf_record labels hid rfl, rfl⟩, hds, hacts⟩

theorem Founds.adds {c : Creation} {vertexId : String} {found : Scene → Scene}
    (h : c.Founds vertexId found) (σ : Scene) :
    Scene.Adds (RecordOf c.entities) σ (found σ) := by
  cases c with
  | device node groups devices components =>
    obtain ⟨v, mounts, hv, hmounts, rfl⟩ := h
    exact (σ.adds_create "v" ⟨_, List.mem_cons_self, hv.recorded⟩).trans
      (adds_mountAll _ hmounts fun c hc => List.mem_cons_of_mem _ (List.mem_map_of_mem hc))
  | component owner node =>
    obtain ⟨v, label, deviceId, edgeId, hv, rfl⟩ := h
    have hrecord : RecordOf (component owner node).entities v.properties :=
      ⟨_, List.mem_cons_self, hv.recorded⟩
    exact ((σ.find "d" label deviceId).adds_create "c" hrecord).trans (Scene.adds_link _ _ _ _ _)
  | group node groups =>
    obtain ⟨v, edgeId, parentId?, hv, rfl⟩ := h
    exact Groups.adds_place σ ⟨_, List.mem_cons_self, hv.recorded⟩ edgeId parentId?

/-- Whatever is created, the graph only has vertices more, with records of the entities. -/
theorem adds_of_make {c : Creation} {ids : EdgeIds} {vertexId : String} {s : Statement}
    (h : c.make ids = .ok (vertexId, s)) (g : Graph) :
    ∃ new, (s.apply g).vertices = g.vertices ++ new ∧
      ∀ v ∈ new, RecordOf c.entities v.properties := by
  obtain ⟨found, ds, hfound, hds, hacts⟩ := acts_of_make h
  obtain ⟨τ, rfl, happly⟩ := hacts.apply rfl g
  have hlinks : Scene.Links (fun _ => True) _ _ :=
    Scene.links_drawAll c.var (found ⟨g, [[]]⟩) hds fun _ _ => trivial
  obtain ⟨new, hnew, hrecords⟩ := (hfound.adds ⟨g, [[]]⟩).trans hlinks.adds
  exact ⟨new, happly ▸ hnew, hrecords⟩

end Creation

end DeviceGraph.Store
