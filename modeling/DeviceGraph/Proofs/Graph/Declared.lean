import DeviceGraph.Proofs.Graph.Creation
import DeviceGraph.Proofs.Graph.Ends

/-!
# The edges of declared relations

An entity that is created with declared relations gets, for each of them, one edge to every
vertex that has the id of the other end. All of them join the new vertices in the declared
direction.
-/

set_option autoImplicit false

namespace DeviceGraph

namespace Graph

variable {g h : Graph}

theorem idAt_append {new : List Vertex} {n : Nat} {id : Json} (hn : g.idAt n = some id)
    (hv : h.vertices = g.vertices ++ new) : h.idAt n = some id := by
  obtain ⟨v, hv', hid⟩ := Option.bind_eq_some_iff.mp hn
  have hlt := (List.getElem?_eq_some_iff.mp hv').1
  rw [idAt, hv, List.getElem?_append_left hlt, hv']
  exact hid

theorem Draws.of_vertices_eq {places : List Nat} {link : Declared} {block : List Edge}
    (hd : g.Draws places link block) (hv : h.vertices = g.vertices) : h.Draws places link block := by
  obtain ⟨otherId, edgeId, htarget, hmem⟩ := hd
  exact ⟨otherId, edgeId, htarget, by rwa [located_of_vertices_eq hv]⟩

/-- From no place nothing is drawn. -/
theorem Draws.eq_nil {link : Declared} {block : List Edge} (hd : g.Draws [] link block) :
    block = [] := by
  obtain ⟨otherId, edgeId, _, hmem⟩ := hd
  refine List.eq_nil_iff_forall_not_mem.mpr fun e he => ?_
  obtain ⟨n, hn, _⟩ := (hmem e).mp he
  cases hn

/-- What is drawn for a declared relation runs as it was declared. -/
theorem Draws.runs {places : List Nat} {link : Declared} {block : List Edge} {entity other : String}
    (hd : g.Draws places link block) (hplaces : ∀ n ∈ places, g.idAt n = some (.string entity))
    (htarget : link.target = .ok other) {e : Edge} (he : e ∈ block) :
    g.Runs entity link.relation link.direction other e ∧ ∃ id, e.id = .string id := by
  obtain ⟨otherId, edgeId, htarget', hmem⟩ := hd
  cases htarget.symm.trans htarget'
  obtain ⟨n, hn, m, hm, hjoins, hid⟩ := (hmem e).mp he
  exact ⟨⟨n, m, hplaces n hn, idAt_of_mem_located hm, hjoins⟩, edgeId, hid⟩

end Graph

namespace Scene

variable {var : String} {id : Json} {σ τ : Scene}

/-- A scene whose new vertices of a variable have an id. If there is no such vertex then
nothing is new. -/
structure Roots (var : String) (id : Json) (σ τ : Scene) : Prop where
  edges : ∃ more, τ.graph.edges = σ.graph.edges ++ more
  named : ∀ n ∈ τ.placesOf var, τ.graph.idAt n = some id
  bound : τ.placesOf var = [] → τ.ways = []
  idle : τ.ways = [] → τ.graph = σ.graph

theorem mem_placesOf_create_of_ne {other : String} (h : other ≠ var) (v : Vertex) (n : Nat) :
    n ∈ (τ.create other v).placesOf var ↔ n ∈ τ.placesOf var := by
  simp only [mem_placesOf]
  constructor
  · rintro ⟨way, hway, hn⟩
    obtain ⟨i, hi, rfl⟩ := List.mem_mapIdx.mp hway
    rw [Entries.get?, if_neg h.symm] at hn
    exact ⟨_, List.getElem_mem hi, hn⟩
  · rintro ⟨way, hway, hn⟩
    obtain ⟨i, hi, rfl⟩ := List.getElem_of_mem hway
    refine ⟨_, List.mem_mapIdx.mpr ⟨i, hi, rfl⟩, ?_⟩
    rw [Entries.get?, if_neg h.symm, hn]

theorem create_of_no_ways (h : σ.ways = []) (var : String) (v : Vertex) :
    (σ.create var v).graph = σ.graph := by
  refine Graph.ext ?_ rfl
  rw [create, h]
  exact List.append_nil _

theorem ways_of_create {v : Vertex} (h : (σ.create var v).ways = []) : σ.ways = [] :=
  List.mapIdx_eq_nil_iff.mp h

theorem roots_create (σ : Scene) (var : String) {v : Vertex}
    (hv : v.properties.get? idProperty = some id) : Roots var id σ (σ.create var v) where
  edges := ⟨[], (List.append_nil _).symm⟩
  named := by
    intro n hn
    obtain ⟨hle, hlt⟩ := (mem_placesOf_create σ var v n).mp hn
    have hnew : (σ.create var v).graph.vertices[n]? = some v := by
      rw [create, List.getElem?_append_right hle, List.getElem?_replicate, if_pos (by omega)]
    rw [Graph.idAt, hnew]
    exact hv
  bound := by
    intro hnone
    have hlength : ¬ 0 < σ.ways.length := by
      intro hpos
      have hfirst := (mem_placesOf_create σ var v σ.graph.vertices.length).mpr ⟨le_refl _, by omega⟩
      rw [hnone] at hfirst
      cases hfirst
    exact List.mapIdx_eq_nil_iff.mpr (List.length_eq_zero_iff.mp (by omega))
  idle := fun hways => create_of_no_ways (ways_of_create hways) var v

theorem Roots.create (h : Roots var id σ τ) {other : String} (hne : other ≠ var) (v : Vertex) :
    Roots var id σ (τ.create other v) where
  edges := h.edges
  named := fun n hn =>
    Graph.idAt_append (h.named n ((mem_placesOf_create_of_ne hne v n).mp hn)) rfl
  bound := by
    intro hnone
    refine List.mapIdx_eq_nil_iff.mpr (h.bound (List.eq_nil_iff_forall_not_mem.mpr fun n hn => ?_))
    have hn := (mem_placesOf_create_of_ne hne v n).mpr hn
    rw [hnone] at hn
    cases hn
  idle := by
    intro hways
    rw [create_of_no_ways (ways_of_create hways), h.idle (ways_of_create hways)]

theorem Roots.link (h : Roots var id σ τ) (origin relation head : String) (edgeId : Json) :
    Roots var id σ (τ.link origin relation head edgeId) where
  edges := by
    obtain ⟨more, hmore⟩ := h.edges
    obtain ⟨block, hblock, _⟩ := τ.edges_link origin relation head edgeId
    exact ⟨more ++ block, by rw [hblock, hmore, List.append_assoc]⟩
  named := h.named
  bound := h.bound
  idle := by
    intro hways
    rw [← h.idle hways]
    refine Graph.ext rfl ?_
    rw [Scene.link, show τ.ways = [] from hways]
    exact List.append_nil _

theorem Roots.mountAll {components : List Node} {mounts : List Mount}
    (hmounts : List.Forall₂ Store.MountOf components mounts)
    (hvar : ∀ n, Statement.numbered "c" n ≠ var) (h : Roots var id σ τ) :
    Roots var id σ (mounts.foldl Scene.mount τ) := by
  induction hmounts generalizing τ with
  | nil => exact h
  | @cons component m components mounts hmount _ ih =>
    obtain ⟨k, hk⟩ := hmount.var
    exact ih ((h.create (hk ▸ hvar k) m.vertex).link m.var componentRelation "v" m.edgeId)

end Scene

namespace Store.Creation
open Statement

variable {c : Creation} {ids : EdgeIds} {vertexId : String} {s : Statement}

theorem Founds.roots {found : Scene → Scene} (h : c.Founds vertexId found) (σ : Scene) :
    Scene.Roots c.var (.string vertexId) σ (found σ) := by
  have hv : ∀ n, numbered "c" n ≠ "v" := fun n => (lettered_ne_numbered (by decide) "c" n).symm
  cases c with
  | device node groups devices components =>
    obtain ⟨v, mounts, hvertex, hmounts, rfl⟩ := h
    exact (σ.roots_create "v" hvertex.id).mountAll hmounts hv
  | component owner node =>
    obtain ⟨v, label, deviceId, edgeId, hvertex, rfl⟩ := h
    have hmade := ((σ.find "d" label deviceId).roots_create "c" hvertex.id).link "c"
      componentRelation "d" edgeId
    exact ⟨hmade.edges, hmade.named, hmade.bound, hmade.idle⟩
  | group node groups =>
    obtain ⟨v, edgeId, parentId?, hvertex, rfl⟩ := h
    cases parentId? with
    | none => exact σ.roots_create "v" hvertex.id
    | some parentId =>
      have hmade := ((σ.find "parent" Category.group.label (.string parentId)).roots_create "v"
        hvertex.id).link "v" parentRelation "parent" edgeId
      exact ⟨hmade.edges, hmade.named, hmade.bound, hmade.idle⟩

theorem numbered_ne_var (c : Creation) (n : Nat) : numbered "o" n ≠ c.var := by
  have hv := (lettered_ne_numbered (by decide : Lettered "v") "o" n).symm
  have hc := (lettered_ne_numbered (by decide : Lettered "c") "o" n).symm
  cases c with
  | device => exact hv
  | component => exact hc
  | group => exact hv

/-- Behind the edges that belong to what is created, a graph gets a block of edges for every
declared relation, from all the places where the entity was created. -/
theorem draws_of_make (h : c.make ids = .ok (vertexId, s)) (g : Graph) :
    ∃ first blocks places, (s.apply g).edges = g.edges ++ first ++ blocks.flatten ∧
      (∀ n ∈ places, (s.apply g).idAt n = some (.string vertexId)) ∧
      (places = [] → s.apply g = g) ∧
      List.Forall₂ ((s.apply g).Draws places) c.declared blocks := by
  obtain ⟨found, ds, hfound, hds, hacts⟩ := acts_of_make h
  obtain ⟨τ, rfl, happly⟩ := hacts.apply rfl g
  have hroots := hfound.roots ⟨g, [[]]⟩
  obtain ⟨first, hfirst⟩ := hroots.edges
  obtain ⟨hvertices, blocks, hblocks, hdraws⟩ :=
    Scene.edges_drawAll (σ := found ⟨g, [[]]⟩) c.numbered_ne_var hds rfl fun _ => Iff.rfl
  rw [happly]
  refine ⟨first, blocks, (found ⟨g, [[]]⟩).placesOf c.var, by rw [hblocks, hfirst], ?_, ?_,
    hdraws.imp fun _ _ hdraw => hdraw.of_vertices_eq hvertices⟩
  · intro n hn
    exact Graph.idAt_append (hroots.named n hn) (hvertices.trans (List.append_nil _).symm)
  · intro hnone
    have hsame := hroots.idle (hroots.bound hnone)
    have hnothing : blocks.flatten = [] := by
      rw [hnone] at hdraws
      refine List.flatten_eq_nil_iff.mpr fun block hm => ?_
      obtain ⟨i, hi, rfl⟩ := List.getElem_of_mem hm
      exact (hdraws.get (hdraws.length_eq ▸ hi) hi).eq_nil
    refine Graph.ext (hvertices.trans (congrArg Graph.vertices hsame)) ?_
    rw [hblocks, hnothing, List.append_nil, hsame]

end Store.Creation

end DeviceGraph
