import DeviceGraph.Proofs.Graph.Creation

/-!
# The hierarchy of groups in a graph

A group stores the path of the group above it and has an edge to that group, so one
fact is kept twice. Both agree if a group has exactly one such edge when it stores a
path, which leads to a group with that path, and none when it stores no path. The
group on top has none in any case. Adding a group beneath another one keeps the two
in agreement, and a change of properties does as long as it leaves the path alone.
-/

set_option autoImplicit false

namespace DeviceGraph

def namedPath? : Option Json → Option String
  | some (.string path) => if path = "" then none else some path
  | _ => none

def Properties.parentPath? (properties : Properties) : Option String :=
  namedPath? (properties.get? Store.Groups.parentProperty)

namespace Vertex

def isGroup (v : Vertex) (path : String) : Bool :=
  match Identity.groupId path with
  | .ok id => v.isAt Category.group.label (.string id)
  | .error _ => false

def above? (v : Vertex) (path : String) : Option String :=
  if path = Store.Groups.rootPath then none else v.properties.parentPath?

theorem isGroup_eq {path id : String} (hid : Identity.groupId path = .ok id) (v : Vertex) :
    v.isGroup path = v.isAt Category.group.label (.string id) := by
  rw [isGroup, hid]

theorem isGroup_iff {v : Vertex} {path : String} : v.isGroup path = true ↔
    ∃ id, Identity.groupId path = .ok id ∧ v.isAt Category.group.label (.string id) = true := by
  rw [isGroup]
  cases Identity.groupId path <;> simp

theorem isGroup_unique {v : Vertex} {path other : String} (h : v.isGroup path = true)
    (g : v.isGroup other = true) : path = other := by
  obtain ⟨id, hid, hat⟩ := isGroup_iff.mp h
  obtain ⟨id', hid', gat⟩ := isGroup_iff.mp g
  have hids := (v.id_of_isAt hat).symm.trans (v.id_of_isAt gat)
  cases hids
  exact Identity.groupId_inj hid hid'

end Vertex

namespace Graph

def parentEdges (g : Graph) (n : Nat) : List Edge :=
  g.edges.filter fun e => e.relation = parentRelation ∧ e.origin = n

def Above (g : Graph) (n : Nat) : Option String → Prop
  | none => g.parentEdges n = []
  | some path => ∃ e v, g.parentEdges n = [e] ∧ g.vertices[e.head]? = some v ∧
      v.isGroup path = true

def isAbove (g : Graph) (n : Nat) : Option String → Bool
  | none => (g.parentEdges n).isEmpty
  | some path =>
    match g.parentEdges n with
    | [e] => g.vertices[e.head]?.any (·.isGroup path)
    | _ => false

theorem isAbove_iff {g : Graph} {n : Nat} {path? : Option String} :
    g.isAbove n path? = true ↔ g.Above n path? := by
  cases path? with
  | none => exact List.isEmpty_iff
  | some path =>
    rw [isAbove, Above]
    rcases g.parentEdges n with _ | ⟨e, _ | ⟨e', rest⟩⟩
    · simp
    · simp [Option.any_eq_true]
    · simp

instance (g : Graph) (n : Nat) (path? : Option String) : Decidable (g.Above n path?) :=
  decidable_of_iff _ isAbove_iff

/-- Every group has the edge to the group above it that it should have, and no other. -/
structure Hierarchical (g : Graph) : Prop where
  within : ∀ e ∈ g.edges, e.relation = parentRelation → e.origin < g.vertices.length
  placed : ∀ n v path, g.vertices[n]? = some v → v.isGroup path = true →
    g.Above n (v.above? path)

def Keeps (g h : Graph) : Prop :=
  ∀ (n : Nat) (v : Vertex), g.vertices[n]? = some v → ∃ w : Vertex, h.vertices[n]? = some w ∧
    ∀ path, w.isGroup path = v.isGroup path

variable {g h : Graph} {n : Nat}

theorem Above.unique {p q : Option String} (hp : g.Above n p) (hq : g.Above n q) : p = q := by
  cases p with
  | none =>
    cases q with
    | none => rfl
    | some path =>
      obtain ⟨e, _, he, _⟩ := hq
      exact nomatch (Eq.symm hp).trans he
  | some path =>
    obtain ⟨e, v, he, hv, hgroup⟩ := hp
    cases q with
    | none => exact nomatch (Eq.symm hq).trans he
    | some other =>
      obtain ⟨e', v', he', hv', hgroup'⟩ := hq
      rw [he] at he'
      cases he'
      rw [hv] at hv'
      cases hv'
      rw [Vertex.isGroup_unique hgroup hgroup']

theorem Above.mono {p : Option String} (hp : g.Above n p) (hkeeps : g.Keeps h)
    (hedges : h.parentEdges n = g.parentEdges n) : h.Above n p := by
  cases p with
  | none => exact hedges.trans hp
  | some path =>
    obtain ⟨e, v, he, hv, hgroup⟩ := hp
    obtain ⟨w, hw, hpaths⟩ := hkeeps _ _ hv
    exact ⟨e, w, hedges.trans he, hw, (hpaths path).trans hgroup⟩

/-! ## Changing properties -/

def changed (label id : String) (change : Properties → Properties) (v : Vertex) : Vertex :=
  if v.isAt label (.string id) then { v with properties := change v.properties } else v

section Modify

variable {path id : String} {change : Properties → Properties}

theorem getElem?_modify_find (g : Graph) (label id : String) (change : Properties → Properties)
    (n : Nat) : (g.modify (g.find label (.string id)) change).vertices[n]? =
      g.vertices[n]?.map (changed label id change) := by
  rw [modify_find, List.getElem?_map]
  rfl

theorem above?_changed (hid : Identity.groupId path = .ok id) {v : Vertex}
    (hv : v.isGroup path = true) : (changed Category.group.label id change v).above? path =
      if path = Store.Groups.rootPath then none else (change v.properties).parentPath? := by
  rw [Vertex.isGroup_eq hid] at hv
  rw [changed, if_pos hv, Vertex.above?]

theorem changed_of_ne (hid : Identity.groupId path = .ok id) {v : Vertex} {other : String}
    (hv : v.isGroup other = true) (hne : path ≠ other) :
    changed Category.group.label id change v = v := by
  refine if_neg fun hat => hne (Vertex.isGroup_unique ?_ hv)
  rwa [Vertex.isGroup_eq hid]

variable (hchange : ∀ p : Properties, (change p).get? idProperty = p.get? idProperty)
include hchange

theorem isGroup_changed (label id : String) (v : Vertex) (path : String) :
    (changed label id change v).isGroup path = v.isGroup path := by
  rw [changed]
  split
  · rw [Vertex.isGroup, Vertex.isGroup]
    cases Identity.groupId path with
    | error err => rfl
    | ok id => simp only [Vertex.isAt, hchange]
  · rfl

theorem keeps_modify (g : Graph) (label id : String) :
    g.Keeps (g.modify (g.find label (.string id)) change) := by
  intro n v hv
  rw [getElem?_modify_find, hv]
  exact ⟨_, rfl, isGroup_changed hchange label id v⟩

/-- A change of the groups with a path keeps the hierarchy exactly if it leaves the stored
path of the group above as it is, or the group is the one on top. -/
theorem Hierarchical.modify_iff (hg : g.Hierarchical) (hid : Identity.groupId path = .ok id) :
    (g.modify (g.find Category.group.label (.string id)) change).Hierarchical ↔
      (path ≠ Store.Groups.rootPath → ∀ v ∈ g.vertices, v.isGroup path = true →
        (change v.properties).parentPath? = v.properties.parentPath?) := by
  let h := g.modify (g.find Category.group.label (.string id)) change
  have hgroup := isGroup_changed hchange Category.group.label id
  have hkeeps := keeps_modify hchange g Category.group.label id
  constructor
  · intro hh hroot v hv hpath
    -- the edges are the same before and after, and they name one group above
    obtain ⟨n, hn⟩ := List.mem_iff_getElem?.mp hv
    have hafter := hh.placed n _ path (by rw [getElem?_modify_find, hn]; rfl)
      ((hgroup v path).trans hpath)
    have hbefore := (hg.placed n v path hn hpath).mono hkeeps rfl
    have hsame := hafter.unique hbefore
    rwa [above?_changed hid hpath, Vertex.above?, if_neg hroot, if_neg hroot] at hsame
  · intro hsame
    refine ⟨fun e he hrelation => ?_, fun n w other hw hother => ?_⟩
    · have hlength : h.vertices.length = g.vertices.length := List.length_mapIdx
      exact hlength ▸ hg.within e he hrelation
    · rw [getElem?_modify_find, Option.map_eq_some_iff] at hw
      obtain ⟨v, hv, rfl⟩ := hw
      rw [hgroup] at hother
      have habove : (changed Category.group.label id change v).above? other = v.above? other := by
        by_cases hpath : path = other
        · subst hpath
          rw [above?_changed hid hother, Vertex.above?]
          exact ite_congr rfl (fun _ => rfl)
            fun hroot => hsame hroot v (List.mem_of_getElem? hv) hother
        · rw [changed_of_ne hid hother hpath]
      rw [habove]
      exact (hg.placed n v other hv hother).mono hkeeps rfl

end Modify

/-! ## Adding vertices and edges -/

theorem filter_parent_eq_nil {edges : List Edge}
    (h : ∀ e ∈ edges, e.relation = parentRelation → e.origin ≠ n) :
    edges.filter (fun e => e.relation = parentRelation ∧ e.origin = n) = [] := by
  refine List.filter_eq_nil_iff.mpr fun e he => ?_
  rw [decide_eq_true_eq, not_and]
  exact h e he

theorem Hierarchical.parentEdges_eq_nil (hg : g.Hierarchical) (hn : g.vertices.length ≤ n) :
    g.parentEdges n = [] :=
  filter_parent_eq_nil fun e he hrelation =>
    Nat.ne_of_lt (Nat.lt_of_lt_of_le (hg.within e he hrelation) hn)

theorem Hierarchical.grow (hg : g.Hierarchical) (new : List Vertex) (more : List Edge)
    (hvertices : h.vertices = g.vertices ++ new) (hedges : h.edges = g.edges ++ more)
    (hmore : ∀ e ∈ more, e.relation = parentRelation →
      g.vertices.length ≤ e.origin ∧ e.origin < h.vertices.length)
    (hnew : ∀ i v path, new[i]? = some v → v.isGroup path = true →
      h.Above (g.vertices.length + i) (v.above? path)) : h.Hierarchical := by
  have hkeeps : g.Keeps h := by
    intro n v hv
    have hlt := (List.getElem?_eq_some_iff.mp hv).1
    exact ⟨v, by rw [hvertices, List.getElem?_append_left hlt, hv], fun _ => rfl⟩
  constructor
  · intro e he hrelation
    rw [hedges] at he
    rcases List.mem_append.mp he with he | he
    · have hlt := hg.within e he hrelation
      rw [hvertices, List.length_append]
      omega
    · exact (hmore e he hrelation).2
  · intro n v path hv hpath
    by_cases hlt : n < g.vertices.length
    · rw [hvertices, List.getElem?_append_left hlt] at hv
      refine (hg.placed n v path hv hpath).mono hkeeps ?_
      have hnone : more.filter (fun e => e.relation = parentRelation ∧ e.origin = n) = [] :=
        filter_parent_eq_nil fun e he hrelation =>
          Nat.ne_of_gt (Nat.lt_of_lt_of_le hlt (hmore e he hrelation).1)
      rw [parentEdges, hedges, List.filter_append, hnone, List.append_nil, parentEdges]
    · rw [hvertices, List.getElem?_append_right (by omega)] at hv
      have habove := hnew _ v path hv hpath
      rwa [show g.vertices.length + (n - g.vertices.length) = n by omega] at habove

/-- Edges that do not lead to a group above have no part in the hierarchy. -/
theorem Hierarchical.links {σ τ : Scene} (hσ : σ.graph.Hierarchical)
    (hl : Scene.Links (· ≠ parentRelation) σ τ) : τ.graph.Hierarchical := by
  obtain ⟨hvertices, more, hedges, hmore⟩ := hl
  refine hσ.grow [] more (by rw [hvertices, List.append_nil]) hedges
    (fun e he hrelation => absurd hrelation (hmore e he)) fun i v path hv => ?_
  cases hv

/-! ## Placing a group -/

def edgesTo (start : Nat) (places : List Nat) (id : Json) : List Edge :=
  places.mapIdx fun i n => ⟨start + i, parentRelation, n, id⟩

theorem edgesTo_cons (start n : Nat) (places : List Nat) (id : Json) :
    edgesTo start (n :: places) id = ⟨start, parentRelation, n, id⟩ ::
      edgesTo (start + 1) places id := by
  have hshift : ∀ i, start + 1 + i = start + (i + 1) := fun i => by omega
  rw [edgesTo, List.mapIdx_cons, edgesTo]
  simp only [hshift, Nat.add_zero]

theorem mem_edgesTo {start : Nat} {places : List Nat} {id : Json} {e : Edge}
    (he : e ∈ edgesTo start places id) :
    start ≤ e.origin ∧ e.origin < start + places.length := by
  obtain ⟨i, hi, rfl⟩ := List.mem_mapIdx.mp he
  dsimp only
  omega

/-- Each new vertex has exactly one of the edges. -/
theorem filter_edgesTo {start i n : Nat} {places : List Nat} {id : Json}
    (hn : places[i]? = some n) :
    (edgesTo start places id).filter (fun e => e.relation = parentRelation ∧ e.origin = start + i) =
      [⟨start + i, parentRelation, n, id⟩] := by
  -- the edge at the front starts at the first new place, all others beyond it
  induction places generalizing start i with
  | nil => cases hn
  | cons m places ih =>
    rw [edgesTo_cons]
    cases i with
    | zero =>
      cases hn
      have hnone : (edgesTo (start + 1) places id).filter
          (fun e => e.relation = parentRelation ∧ e.origin = start + 0) = [] :=
        filter_parent_eq_nil fun e he _ => Nat.ne_of_gt (mem_edgesTo he).1
      rw [List.filter_cons_of_pos (by simp), hnone]
      rfl
    | succ i =>
      have hshift : start + (i + 1) = start + 1 + i := by omega
      rw [List.filter_cons_of_neg (by simp), hshift]
      exact ih hn

/-- Vertices that are placed beneath the groups with an id are beneath groups with its path. -/
theorem Hierarchical.above_edgesTo (hg : g.Hierarchical) {path id : String}
    (hid : Identity.groupId path = .ok id) (edgeId : Json) {new : List Vertex}
    (hvertices : h.vertices = g.vertices ++ new) (hedges : h.edges = g.edges ++
      edgesTo g.vertices.length (g.find Category.group.label (.string id)) edgeId)
    {i : Nat} (hi : i < (g.find Category.group.label (.string id)).length) :
    h.Above (g.vertices.length + i) (some path) := by
  obtain ⟨n, hn⟩ : ∃ n, (g.find Category.group.label (.string id))[i]? = some n :=
    ⟨_, List.getElem?_eq_getElem hi⟩
  obtain ⟨v, hv, hat⟩ := mem_find.mp (List.mem_of_getElem? hn)
  have hold := (List.getElem?_eq_some_iff.mp hv).1
  have hnone := hg.parentEdges_eq_nil (Nat.le_add_right g.vertices.length i)
  refine ⟨⟨g.vertices.length + i, parentRelation, n, edgeId⟩, v, ?_, ?_,
    Vertex.isGroup_iff.mpr ⟨id, hid, hat⟩⟩
  · rw [parentEdges] at hnone
    rw [parentEdges, hedges, List.filter_append, hnone, List.nil_append, filter_edgesTo hn]
  · rw [hvertices, List.getElem?_append_left hold, hv]

end Graph

namespace Store.Groups

theorem linked_ways (start : Nat) (heads : List Nat) (id : Json) :
    ((heads.map fun n => ([("parent", n)] : Places)).mapIdx
      fun i way => ("v", start + i) :: way).filterMap (fun way => do
        let origin ← Entries.get? "v" way
        let head ← Entries.get? "parent" way
        return (⟨origin, parentRelation, head, id⟩ : Edge)) = Graph.edgesTo start heads id := by
  induction heads generalizing start with
  | nil => rfl
  | cons n heads ih =>
    have hshift : ∀ i, start + 1 + i = start + (i + 1) := fun i => by omega
    rw [List.map_cons, List.mapIdx_cons, List.filterMap_cons, Graph.edgesTo_cons, ← ih]
    simp only [hshift]
    rfl

/-- Beneath each group with the id a vertex is placed, with an edge to that group. -/
theorem graph_place_some (g : Graph) (v : Vertex) (edgeId : Json) (parentId : String) :
    (place ⟨g, [[]]⟩ v edgeId (some parentId)).graph =
      let heads := g.find Category.group.label (.string parentId)
      ⟨g.vertices ++ List.replicate heads.length v,
        g.edges ++ Graph.edgesTo g.vertices.length heads edgeId⟩ := by
  let heads := g.find Category.group.label (.string parentId)
  have hways : (Scene.find ⟨g, [[]]⟩ "parent" Category.group.label (.string parentId)).ways =
      heads.map fun n => [("parent", n)] := List.append_nil _
  rw [place, Scene.link, Scene.create, hways, linked_ways, List.length_map]
  rfl

theorem ne_rootPath_of_parentPath? {node : Node} {path : String}
    (h : parentPath? node = some path) : node.id ≠ rootPath := by
  intro hroot
  rw [parentPath?] at h
  split at h
  · rw [if_pos hroot] at h
    cases h
  · cases h

/-- The record of a group below the top stores the path that its node names. -/
theorem parentPath?_record {node : Node} (vertexId : String) (hroot : node.id ≠ rootPath)
    (hnonempty : parentPath? node ≠ some "") :
    (Statement.vertexRecord vertexId node keyProperty).parentPath? = parentPath? node := by
  rw [Properties.parentPath?, Statement.get?_vertexRecord _ _ (by decide), if_neg (by decide),
    if_neg (by decide), Statement.get?_creationProperties, if_neg (by decide)]
  rw [parentPath?] at hnonempty ⊢
  cases hstored : node.attributes.get? parentProperty with
  | none => rfl
  | some value =>
    rw [hstored] at hnonempty
    cases value with
    | string path =>
      rw [show Option.filter _ (some (Json.string path)) = some (.string path) from rfl]
      dsimp only [namedPath?] at hnonempty ⊢
      rw [if_neg hroot] at hnonempty ⊢
      rw [if_neg (by simpa using hnonempty)]
    | _ => rfl

theorem id_of_isGroup {node : Node} {vertexId path : String} {labels : List String}
    (hid : Identity.groupId node.id = .ok vertexId)
    (h : Vertex.isGroup ⟨labels, Statement.vertexRecord vertexId node keyProperty⟩ path = true) :
    path = node.id := by
  obtain ⟨id, hpathId, hat⟩ := Vertex.isGroup_iff.mp h
  have hstored := Vertex.id_of_isAt _ hat
  rw [Statement.get?_vertexRecord _ _ (by decide), if_pos rfl] at hstored
  cases hstored
  exact Identity.groupId_inj hpathId hid

/-- A new group is placed as its node says. -/
theorem hierarchical_place {g : Graph} (hg : g.Hierarchical) {node : Node} {vertexId : String}
    (hid : Identity.groupId node.id = .ok vertexId) {parentId? : Option String}
    (hparent : Option.Rel (fun path parentId => Identity.groupId path = .ok parentId)
      (parentPath? node) parentId?) (labels : List String) (edgeId : Json) :
    (place ⟨g, [[]]⟩ ⟨labels, Statement.vertexRecord vertexId node keyProperty⟩ edgeId
      parentId?).graph.Hierarchical := by
  let v : Vertex := ⟨labels, Statement.vertexRecord vertexId node keyProperty⟩
  cases hp : parentPath? node with
  | none =>
    -- one vertex is new, without an edge; if it stores a path it is the one on top
    rw [hp] at hparent
    cases hparent
    have habove : v.above? node.id = none := by
      rw [Vertex.above?]
      split
      · rfl
      · next hroot => rw [parentPath?_record vertexId hroot (by rw [hp]; exact nofun), hp]
    refine hg.grow [v] [] rfl (List.append_nil _).symm (fun _ he => absurd he List.not_mem_nil)
      fun i w path hw hgroup => ?_
    obtain ⟨hi, hw⟩ := List.getElem?_eq_some_iff.mp hw
    obtain rfl : i = 0 := Nat.lt_one_iff.mp hi
    subst hw
    rw [List.getElem_singleton] at hgroup ⊢
    rw [id_of_isGroup hid hgroup, habove]
    exact hg.parentEdges_eq_nil (Nat.le_refl _)
  | some path =>
    -- a new vertex for each group with the path, which has an id and so is not empty
    rw [hp] at hparent
    cases hparent with
    | @some _ parentId hparentId =>
      have hroot := ne_rootPath_of_parentPath? hp
      have hnonempty : path ≠ "" := by
        rintro rfl
        cases hparentId
      have habove : v.above? node.id = some path := by
        rw [Vertex.above?, if_neg hroot, parentPath?_record vertexId hroot (by simpa [hp]), hp]
      have hplaced := graph_place_some g v edgeId parentId
      refine hg.grow _ _ (congrArg Graph.vertices hplaced) (congrArg Graph.edges hplaced)
        (fun e he _ => ?_) fun i w path' hw hgroup => ?_
      · rw [hplaced, List.length_append, List.length_replicate]
        exact Graph.mem_edgesTo he
      · obtain ⟨hi, hw⟩ := List.getElem?_eq_some_iff.mp hw
        rw [List.length_replicate] at hi
        rw [List.getElem_replicate] at hw
        subst hw
        rw [id_of_isGroup hid hgroup, habove]
        exact hg.above_edgesTo hparentId edgeId (congrArg Graph.vertices hplaced)
          (congrArg Graph.edges hplaced) hi

end Store.Groups

end DeviceGraph
