import DeviceGraph.Proofs.Graph.Ends
import DeviceGraph.Proofs.Store.Seeking

/-!
# Attaching and detaching

To attach is to draw one edge between every two vertices with the ids of the two ends, in the
direction in which the entity is to have it. To detach is to delete the edges of the relation
between the same vertices in the same direction. An entity attaches another one just as that
one attaches the entity in the opposite direction.
-/

set_option autoImplicit false

namespace DeviceGraph

def Clause.Selects (value : String → Json) (g : Graph) (e : Edge) : Clause → Prop
  | findEdges origin relation head => e.relation = relation.name ∧
      e.origin ∈ g.find origin.label.name (value origin.slot) ∧
      e.head ∈ g.find head.label.name (value head.slot)
  | _ => False

def Statement.Deletes (s : Statement) (g : Graph) (e : Edge) : Prop :=
  Clause.deleteEdges ∈ s.clauses ∧ e ∈ g.edges ∧ ∃ c ∈ s.clauses, c.Selects s.value g e

namespace Store
open Statement

variable {ids ids' : EdgeIds} {entity relation other : String} {direction : Direction}
  {s t : Statement} {finish : Statement → VertexPattern → Identifier → VertexPattern → Statement}

def boundEnds (originId headId : String) : Statement :=
  ((({ access := .write } : Statement).bindFresh "vid" (.string originId)).1.bindFresh "vid"
    (.string headId)).1

def endPattern (var : String) (category : Category) (n : Nat) : VertexPattern :=
  ⟨var, category.identifier, numbered "vid" n⟩

structure Ends (entity relation : String) (direction : Direction) (other : String) where
  originId : String
  headId : String
  origin : Category
  head : Category
  name : Identifier
  ends : endpoints entity direction other = .ok (originId, headId)
  originDecodes : ∃ keys, Identity.decode originId = .ok (origin, keys)
  headDecodes : ∃ keys, Identity.decode headId = .ok (head, keys)
  named : name.name = relation

namespace Ends

variable (p : Ends entity relation direction other) (g : Graph) (e : Edge)

def start : Statement := boundEnds p.originId p.headId

def source : VertexPattern := endPattern "source" p.origin 0

def target : VertexPattern := endPattern "target" p.head 1

def attached (id : String) : Statement :=
  ((p.start.bind "edge_id" (.string id)).push (.findVertices [p.source, p.target])).push
    (.createEdge ⟨"source", p.name, "edge_id", "target"⟩)

def detached : Statement :=
  (p.start.push (.findEdges p.source p.name p.target)).push .deleteEdges

theorem param?_start : p.start.param? p.source.slot = some (.string p.originId) ∧
    p.start.param? p.target.slot = some (.string p.headId) := by
  have horigin := Writes.bindFresh (fresh_new .write) stems_lettered.1 (.string p.originId)
  have hhead := Writes.bindFresh horigin.fresh stems_lettered.1 (.string p.headId)
  exact ⟨hhead.kept (param?_bindFresh_new _ "vid" _), param?_bindFresh_new _ "vid" _⟩

theorem located_origin :
    g.located p.originId = g.find p.source.label.name (.string p.originId) := by
  obtain ⟨keys, hd⟩ := p.originDecodes
  exact Graph.located_eq hd

theorem located_head : g.located p.headId = g.find p.target.label.name (.string p.headId) := by
  obtain ⟨keys, hd⟩ := p.headDecodes
  exact Graph.located_eq hd

/-- Whether an edge is between the two ends is seen from either of them. -/
theorem between_iff : e.origin ∈ g.located p.originId ∧ e.head ∈ g.located p.headId ↔
    ∃ n ∈ g.located entity, ∃ m ∈ g.located other, e.seen direction = (n, m) := by
  obtain ⟨originId, headId, _, _, _, hends, _, _, _⟩ := p
  have hseen : (e.origin ∈ g.located originId ∧ e.head ∈ g.located headId) ↔
      (e.seen direction).1 ∈ g.located entity ∧ (e.seen direction).2 ∈ g.located other := by
    cases direction with
    | incoming =>
      cases hends
      exact and_comm
    | outgoing =>
      cases hends
      exact Iff.rfl
    | both => cases hends
  rw [hseen]
  constructor
  · exact fun ⟨hn, hm⟩ => ⟨_, hn, _, hm, rfl⟩
  · rintro ⟨n, hn, m, hm, hends⟩
    rw [hends]
    exact ⟨hn, hm⟩

theorem length_located_mul : (g.located p.originId).length * (g.located p.headId).length =
    (g.located entity).length * (g.located other).length := by
  obtain ⟨originId, headId, _, _, _, hends, _, _, _⟩ := p
  cases direction with
  | incoming =>
    cases hends
    exact Nat.mul_comm _ _
  | outgoing =>
    cases hends
    rfl
  | both => cases hends

end Ends

theorem vertex_of_decode (s : Statement) (var : String) {vertexId : String} {category : Category}
    {keys : List String} (hd : Identity.decode vertexId = .ok (category, keys)) :
    s.vertex var vertexId = .ok ((s.bindFresh "vid" (.string vertexId)).1,
      ⟨var, category.identifier, numbered "vid" s.issued⟩) := by
  rw [vertex, hd]
  rfl

/-- Both ends are looked for under their ids. -/
theorem betweenEnds_eq_ok_iff : betweenEnds finish entity relation direction other = .ok s ↔
    ∃ p : Ends entity relation direction other, s = finish p.start p.source p.name p.target := by
  constructor
  · intro h
    obtain ⟨⟨originId, headId⟩, hends, h⟩ := (Checks.bind_eq_ok_iff _ _ _).mp h
    obtain ⟨⟨s₁, origin⟩, horigin, h⟩ := (Checks.bind_eq_ok_iff _ _ _).mp h
    obtain ⟨⟨s₂, head⟩, hhead, h⟩ := (Checks.bind_eq_ok_iff _ _ _).mp h
    obtain ⟨name, hname, h⟩ := (Checks.bind_eq_ok_iff _ _ _).mp h
    obtain ⟨c, ks, hc, rfl, rfl⟩ := vertex_eq_ok horigin
    obtain ⟨d, ls, hd, rfl, rfl⟩ := vertex_eq_ok hhead
    exact ⟨⟨originId, headId, c, d, name, hends, ⟨ks, hc⟩, ⟨ls, hd⟩,
      (Identifier.of_eq_ok_iff _ _).mp hname⟩, (Except.ok.inj h).symm⟩
  · rintro ⟨p, rfl⟩
    obtain ⟨ks, hc⟩ := p.originDecodes
    obtain ⟨ls, hd⟩ := p.headDecodes
    refine (Checks.bind_eq_ok_iff _ _ _).mpr ⟨_, p.ends, ?_⟩
    refine (Checks.bind_eq_ok_iff _ _ _).mpr ⟨_, vertex_of_decode _ "source" hc, ?_⟩
    refine (Checks.bind_eq_ok_iff _ _ _).mpr ⟨_, vertex_of_decode _ "target" hd, ?_⟩
    exact (Checks.bind_eq_ok_iff _ _ _).mpr ⟨_, (Identifier.of_eq_ok_iff _ _).mpr p.named, rfl⟩

/-- Both ends are looked for when their ids can be decoded and the relation has a name. -/
theorem exists_betweenEnds_iff (hd : direction ≠ .both) :
    (∃ s, betweenEnds finish entity relation direction other = .ok s) ↔
      (∃ address, Identity.decode entity = .ok address) ∧
      (∃ address, Identity.decode other = .ok address) ∧ relation ≠ "" := by
  have hends : (∃ s, betweenEnds finish entity relation direction other = .ok s) ↔
      Nonempty (Ends entity relation direction other) := by
    simp only [betweenEnds_eq_ok_iff]
    exact ⟨fun ⟨_, p, _⟩ => ⟨p⟩, fun ⟨p⟩ => ⟨_, p, rfl⟩⟩
  rw [hends]
  constructor
  · rintro ⟨⟨originId, headId, c, d, name, hends, ⟨ks, hc⟩, ⟨ls, hh⟩, hnamed⟩⟩
    have hname : relation ≠ "" := hnamed ▸ name.nonempty
    cases direction with
    | incoming =>
      cases hends
      exact ⟨⟨_, hh⟩, ⟨_, hc⟩, hname⟩
    | outgoing =>
      cases hends
      exact ⟨⟨_, hc⟩, ⟨_, hh⟩, hname⟩
    | both => exact absurd rfl hd
  · rintro ⟨⟨⟨c, ks⟩, he⟩, ⟨⟨d, ls⟩, ho⟩, hname⟩
    cases direction with
    | incoming => exact ⟨⟨other, entity, d, c, ⟨relation, hname⟩, rfl, ⟨ls, ho⟩, ⟨ks, he⟩, rfl⟩⟩
    | outgoing => exact ⟨⟨entity, other, c, d, ⟨relation, hname⟩, rfl, ⟨ks, he⟩, ⟨ls, ho⟩, rfl⟩⟩
    | both => exact absurd rfl hd

theorem attachStatement_eq_ok_iff :
    attachStatement ids entity relation direction other = .ok s ↔
      ∃ p : Ends entity relation direction other, s = p.attached (ids p.start.issued) := by
  rw [attachStatement_eq]
  exact betweenEnds_eq_ok_iff

theorem detachStatement_eq_ok_iff : detachStatement entity relation direction other = .ok t ↔
    ∃ p : Ends entity relation direction other, t = p.detached := by
  rw [detachStatement_eq]
  exact betweenEnds_eq_ok_iff

/-! ## Two statements about one edge -/

theorem Ends.unique (p q : Ends entity relation direction other) : p = q := by
  obtain ⟨originId, headId, c, d, name, hends, ⟨ks, hc⟩, ⟨ls, hd⟩, hname⟩ := p
  obtain ⟨originId', headId', c', d', name', hends', ⟨ks', hc'⟩, ⟨ls', hd'⟩, hname'⟩ := q
  cases hends.symm.trans hends'
  cases hc.symm.trans hc'
  cases hd.symm.trans hd'
  cases ((Identifier.of_eq_ok_iff _ _).mpr hname).symm.trans ((Identifier.of_eq_ok_iff _ _).mpr hname')
  rfl

/-- What is attached and what is detached are the same two ends and the same relation; to
attach there is only the id of the edge beside the ids of the ends. -/
theorem clauses_attach_detach (h : attachStatement ids entity relation direction other = .ok s)
    (h' : detachStatement entity relation direction other = .ok t) :
    ∃ origin name head id,
      s.clauses = [.findVertices [origin, head],
        .createEdge ⟨origin.var, name, "edge_id", head.var⟩] ∧
      t.clauses = [.findEdges origin name head, .deleteEdges] ∧
      s.params = t.params.insert "edge_id" (.string id) := by
  obtain ⟨p, rfl⟩ := attachStatement_eq_ok_iff.mp h
  obtain ⟨q, rfl⟩ := detachStatement_eq_ok_iff.mp h'
  cases p.unique q
  exact ⟨p.source, p.name, p.target, ids p.start.issued, rfl, rfl, rfl⟩

/-- Two attempts to attach the same ends differ in no more than the id of the edge. -/
theorem attach_alike (h : attachStatement ids entity relation direction other = .ok s)
    (h' : attachStatement ids' entity relation direction other = .ok t) :
    t.access = s.access ∧ t.clauses = s.clauses ∧
      ∃ id, t.params = s.params.insert "edge_id" (.string id) := by
  obtain ⟨p, rfl⟩ := attachStatement_eq_ok_iff.mp h
  obtain ⟨q, rfl⟩ := attachStatement_eq_ok_iff.mp h'
  cases p.unique q
  refine ⟨rfl, rfl, ids' p.start.issued, Dict.ext_get? fun key => ?_⟩
  have hparams : ∀ id, (p.start.bind "edge_id" (.string id)).params.get? key =
      if key = "edge_id" then some (.string id) else p.start.params.get? key :=
    fun id => p.start.params.get?_insert "edge_id" key (.string id)
  refine (hparams (ids' p.start.issued)).trans ?_
  rw [Dict.get?_insert]
  by_cases hkey : key = "edge_id"
  · rw [if_pos hkey, if_pos hkey]
  · rw [if_neg hkey, if_neg hkey]
    exact ((hparams (ids p.start.issued)).trans (if_neg hkey)).symm

theorem endpoints_opposite (entity : String) (direction : Direction) (other : String) :
    endpoints other direction.opposite entity = endpoints entity direction other := by
  cases direction <;> rfl

/-- An edge is attached from either of its ends by one statement. -/
theorem attachStatement_opposite (ids : EdgeIds) (entity relation : String)
    (direction : Direction) (other : String) :
    attachStatement ids other relation direction.opposite entity =
      attachStatement ids entity relation direction other := by
  rw [attachStatement, endpoints_opposite]
  rfl

theorem attach_opposite (entity relation : String) (direction : Direction) (other : String) :
    attach other relation direction.opposite entity = attach entity relation direction other := by
  simp only [attach, attachStatement_opposite]

/-! ## On a graph -/

def edgesBetween (origins heads : List Nat) (relation : String) (id : Json) : List Edge :=
  origins.flatMap fun n => heads.map fun m => ⟨n, relation, m, id⟩

theorem mem_edgesBetween {origins heads : List Nat} {relation : String} {id : Json} {e : Edge} :
    e ∈ edgesBetween origins heads relation id ↔
      (e.origin ∈ origins ∧ e.head ∈ heads) ∧ e.relation = relation ∧ e.id = id := by
  simp only [edgesBetween, List.mem_flatMap, List.mem_map]
  constructor
  · rintro ⟨n, hn, m, hm, rfl⟩
    exact ⟨⟨hn, hm⟩, rfl, rfl⟩
  · rintro ⟨⟨hn, hm⟩, rfl, rfl⟩
    exact ⟨_, hn, _, hm, rfl⟩

theorem length_edgesBetween (origins heads : List Nat) (relation : String) (id : Json) :
    (edgesBetween origins heads relation id).length = origins.length * heads.length := by
  simp [edgesBetween, List.length_flatMap]

/-- Between two variables that were looked for all the places are joined. -/
theorem graph_link_found (g : Graph) (label relation label' : String) (id id' edgeId : Json) :
    ((((Scene.mk g [[]]).find "source" label id).find "target" label' id').link "source" relation
      "target" edgeId).graph = ⟨g.vertices,
        g.edges ++ edgesBetween (g.find label id) (g.find label' id') relation edgeId⟩ := by
  refine Graph.ext rfl (congrArg (g.edges ++ ·) ?_)
  simp [Scene.find, edgesBetween, List.filterMap_flatMap, List.flatMap_map, Entries.get?]

theorem Ends.apply_attached (p : Ends entity relation direction other) (id : String)
    (g : Graph) : (p.attached id).apply g = ⟨g.vertices,
      g.edges ++ edgesBetween (g.located p.originId) (g.located p.headId) relation
        (.string id)⟩ := by
  let t := p.start.bind "edge_id" (.string id)
  have hkept : ∀ n v, p.start.param? (numbered "vid" n) = some v →
      t.value (numbered "vid" n) = v := by
    intro n v hv
    apply value_of_param?
    rw [param?_bind, if_neg (lettered_ne_numbered (by decide) "vid" n).symm, hv]
  have hsource : t.value p.source.slot = .string p.originId := hkept 0 _ p.param?_start.1
  have htarget : t.value p.target.slot = .string p.headId := hkept 1 _ p.param?_start.2
  have hedge : t.value "edge_id" = .string id := by
    apply value_of_param?
    rw [param?_bind, if_pos rfl]
  have hscene : (p.attached id).apply g =
      ((((Scene.mk g [[]]).find "source" p.source.label.name (t.value p.source.slot)).find
        "target" p.target.label.name (t.value p.target.slot)).link "source" p.name.name "target"
          (t.value "edge_id")).graph := rfl
  rw [hscene, hsource, htarget, hedge, graph_link_found, ← p.located_origin, ← p.located_head,
    p.named]

/-- An entity that is attached gets an edge between every two vertices with the two ids. -/
theorem apply_attach (h : attachStatement ids entity relation direction other = .ok s)
    (g : Graph) : ∃ block, s.apply g = ⟨g.vertices, g.edges ++ block⟩ ∧
      g.Draws (g.located entity) ⟨direction, relation, .ok other⟩ block ∧
      block.length = (g.located entity).length * (g.located other).length := by
  obtain ⟨p, rfl⟩ := attachStatement_eq_ok_iff.mp h
  refine ⟨_, p.apply_attached _ g, ⟨other, ids p.start.issued, rfl, fun e => ?_⟩, ?_⟩
  · rw [mem_edgesBetween, p.between_iff]
    constructor
    · rintro ⟨⟨n, hn, m, hm, hends⟩, hrelation, hid⟩
      exact ⟨n, hn, m, hm, ⟨hrelation, hends⟩, hid⟩
    · rintro ⟨n, hn, m, hm, ⟨hrelation, hends⟩, hid⟩
      exact ⟨⟨n, hn, m, hm, hends⟩, hrelation, hid⟩
  · rw [length_edgesBetween, p.length_located_mul]

theorem deletes_detach_iff (h : detachStatement entity relation direction other = .ok t)
    (g : Graph) (e : Edge) : t.Deletes g e ↔ e ∈ g.edges ∧
      ∃ n ∈ g.located entity, ∃ m ∈ g.located other, e.Joins n relation direction m := by
  obtain ⟨p, rfl⟩ := detachStatement_eq_ok_iff.mp h
  have hclauses : p.detached.clauses = [.findEdges p.source p.name p.target, .deleteEdges] := rfl
  have hselects : p.detached.Deletes g e ↔ e ∈ g.edges ∧ e.relation = p.name.name ∧
      e.origin ∈ g.find p.source.label.name (p.start.value p.source.slot) ∧
      e.head ∈ g.find p.target.label.name (p.start.value p.target.slot) := by
    rw [Deletes, hclauses]
    simp only [List.mem_cons, List.not_mem_nil, or_false, or_true, true_and, exists_eq_or_imp,
      exists_eq_left, Clause.Selects]
    rfl
  rw [hselects, value_of_param? p.param?_start.1, value_of_param? p.param?_start.2,
    ← p.located_origin, ← p.located_head, p.between_iff, p.named]
  constructor
  · rintro ⟨he, hrelation, n, hn, m, hm, hends⟩
    exact ⟨he, n, hn, m, hm, hrelation, hends⟩
  · rintro ⟨he, n, hn, m, hm, hrelation, hends⟩
    exact ⟨he, hrelation, n, hn, m, hm, hends⟩

end Store

end DeviceGraph
