import DeviceGraph.Proofs.Graph.Building

/-!
# The ends of an edge

An edge joins two places in the direction in which the vertex at one of them has it. Drawing
an edge between a variable and what is found under an id joins every place of the variable
with every place that is found, and nothing else.
-/

set_option autoImplicit false

namespace DeviceGraph

def Direction.opposite : Direction → Direction
  | .incoming => .outgoing
  | .outgoing => .incoming
  | .both => .both

theorem Direction.opposite_ne_both {direction : Direction} (hd : direction ≠ .both) :
    direction.opposite ≠ .both := by
  cases direction with
  | incoming => decide
  | outgoing => decide
  | both => exact absurd rfl hd

def Edge.seen (e : Edge) : Direction → Nat × Nat
  | .incoming => (e.head, e.origin)
  | _ => (e.origin, e.head)

def Edge.Joins (e : Edge) (place : Nat) (relation : String) (direction : Direction)
    (other : Nat) : Prop :=
  e.relation = relation ∧ e.seen direction = (place, other)

theorem Edge.Joins.opposite {e : Edge} {place other : Nat} {relation : String}
    {direction : Direction} (hd : direction ≠ .both) (h : e.Joins place relation direction other) :
    e.Joins other relation direction.opposite place := by
  have hswap := congrArg Prod.swap h.2
  cases direction with
  | incoming => exact ⟨h.1, hswap⟩
  | outgoing => exact ⟨h.1, hswap⟩
  | both => exact absurd rfl hd

namespace Graph

variable {g h : Graph} {entity relation other : String} {direction : Direction} {e : Edge}

def idAt (g : Graph) (place : Nat) : Option Json :=
  g.vertices[place]?.bind (·.properties.get? idProperty)

theorem idAt_of_mem_find {label : String} {id : Json} {n : Nat} (h : n ∈ g.find label id) :
    g.idAt n = some id := by
  obtain ⟨v, hv, hat⟩ := mem_find.mp h
  rw [idAt, hv]
  exact v.id_of_isAt hat

def located (g : Graph) (id : String) : List Nat :=
  match Identity.decode id with
  | .ok (category, _) => g.find category.label (.string id)
  | .error _ => []

theorem located_eq {id : String} {category : Category} {keys : List String}
    (hd : Identity.decode id = .ok (category, keys)) :
    g.located id = g.find category.label (.string id) := by
  rw [located, hd]

theorem idAt_of_mem_located {id : String} {n : Nat} (h : n ∈ g.located id) :
    g.idAt n = some (.string id) := by
  rw [located] at h
  split at h
  · exact idAt_of_mem_find h
  · cases h

theorem located_of_vertices_eq (hv : h.vertices = g.vertices) (id : String) :
    h.located id = g.located id := by
  simp only [located, find, hv]

/-- An edge of a relation between vertices with two ids, in the direction in which the vertex
with the first id has it. -/
def Runs (g : Graph) (entity relation : String) (direction : Direction) (other : String)
    (e : Edge) : Prop :=
  ∃ place otherPlace, g.idAt place = some (.string entity) ∧
    g.idAt otherPlace = some (.string other) ∧ e.Joins place relation direction otherPlace

theorem Runs.of_vertices_eq (hr : g.Runs entity relation direction other e)
    (hv : h.vertices = g.vertices) : h.Runs entity relation direction other e := by
  simpa only [Runs, idAt, hv] using hr

theorem Runs.opposite (hd : direction ≠ .both) (hr : g.Runs entity relation direction other e) :
    g.Runs other relation direction.opposite entity e := by
  obtain ⟨place, otherPlace, hplace, hother, hjoins⟩ := hr
  exact ⟨otherPlace, place, hother, hplace, hjoins.opposite hd⟩

theorem Runs.ends (hr : g.Runs entity relation direction other e) :
    e.relation = relation ∧ g.idAt (e.seen direction).1 = some (.string entity) ∧
      g.idAt (e.seen direction).2 = some (.string other) := by
  obtain ⟨place, otherPlace, hplace, hother, hrelation, hends⟩ := hr
  rw [hends]
  exact ⟨hrelation, hplace, hother⟩

/-- An edge comes from the one of two entities that has it as going out. -/
theorem Runs.origin_iff (hne : entity ≠ other) (hd : direction ≠ .both)
    (hr : g.Runs entity relation direction other e) :
    g.idAt e.origin = some (.string entity) ↔ direction = .outgoing := by
  obtain ⟨_, hentity, hother⟩ := hr.ends
  cases direction with
  | incoming =>
    refine iff_of_false (fun horigin => hne ?_) (fun hout => nomatch hout)
    cases horigin.symm.trans hother
    rfl
  | outgoing => exact iff_of_true hentity rfl
  | both => exact absurd rfl hd

/-- The edges of a declared relation: under one id, one from every place to every vertex with
the id of the other end. -/
def Draws (g : Graph) (places : List Nat) (link : Declared) (block : List Edge) : Prop :=
  ∃ otherId edgeId, link.target = .ok otherId ∧ ∀ e, e ∈ block ↔
    ∃ n ∈ places, ∃ m ∈ g.located otherId, e.Joins n link.relation link.direction m ∧
      e.id = .string edgeId

end Graph

/-! ## Bound places -/

theorem Entries.get?_filter_key {α : Type} (key other : String) (entries : List (String × α)) :
    get? other (entries.filter (·.1 = key)) = if other = key then get? key entries else none := by
  induction entries with
  | nil => simp [get?]
  | cons entry entries ih =>
    by_cases hentry : entry.1 = key
    · by_cases hother : other = key <;> simp [get?, hentry, hother, ih]
    · by_cases hother : other = key
      · subst hother
        simpa [get?, hentry, Ne.symm hentry] using ih
      · simpa [hentry, hother] using ih

namespace Scene

variable {var : String} {σ : Scene} {d : Drawing} {m n : Nat}

theorem mem_placesOf : n ∈ σ.placesOf var ↔ ∃ way ∈ σ.ways, Entries.get? var way = some n := by
  rw [placesOf, List.mem_filterMap]

/-- A way goes on from a variable to the other end of a drawing where there is one. -/
theorem mem_ways_seek {way : Places} : way ∈ (σ.seek var d).ways ↔
    ∃ first ∈ σ.ways, if σ.graph.find d.label (.string d.id) = [] then
        way = first.filter (·.1 = var)
      else ∃ m ∈ σ.graph.find d.label (.string d.id),
        way = (d.other, m) :: first.filter (·.1 = var) := by
  rw [seek, findOptional]
  by_cases hnone : σ.graph.find d.label (.string d.id) = []
  · rw [if_pos (show (σ.keep var).graph.find _ _ = [] from hnone)]
    simp [keep, hnone, eq_comm]
  · rw [if_neg (show (σ.keep var).graph.find _ _ ≠ [] from hnone)]
    simp [keep, find, hnone, eq_comm]

/-- A variable stays where it is bound. -/
theorem mem_placesOf_seek (h : d.other ≠ var) :
    n ∈ (σ.seek var d).placesOf var ↔ n ∈ σ.placesOf var := by
  simp only [mem_placesOf, mem_ways_seek]
  constructor
  · rintro ⟨way, ⟨first, hfirst, hway⟩, hn⟩
    refine ⟨first, hfirst, ?_⟩
    split at hway
    · rw [hway, Entries.get?_filter_key, if_pos rfl] at hn
      exact hn
    · obtain ⟨m, _, rfl⟩ := hway
      rwa [Entries.get?, if_neg h.symm, Entries.get?_filter_key, if_pos rfl] at hn
  · rintro ⟨first, hfirst, hn⟩
    by_cases hnone : σ.graph.find d.label (.string d.id) = []
    · refine ⟨_, ⟨first, hfirst, (if_pos hnone).mpr rfl⟩, ?_⟩
      rw [Entries.get?_filter_key, if_pos rfl, hn]
    · obtain ⟨m, hm⟩ := List.exists_mem_of_ne_nil _ hnone
      refine ⟨_, ⟨first, hfirst, (if_neg hnone).mpr ⟨m, hm, rfl⟩⟩, ?_⟩
      rw [Entries.get?, if_neg h.symm, Entries.get?_filter_key, if_pos rfl, hn]

/-- Both ends of a drawing are bound for every place of the variable and every vertex that is
found, and for no others. -/
theorem bound_seek (h : d.other ≠ var) : (∃ way ∈ (σ.seek var d).ways,
      Entries.get? var way = some n ∧ Entries.get? d.other way = some m) ↔
    n ∈ σ.placesOf var ∧ m ∈ σ.graph.find d.label (.string d.id) := by
  constructor
  · rintro ⟨way, hmem, hn, hm⟩
    refine ⟨(mem_placesOf_seek h).mp (mem_placesOf.mpr ⟨way, hmem, hn⟩), ?_⟩
    obtain ⟨first, _, hway⟩ := mem_ways_seek.mp hmem
    split at hway
    · rw [hway, Entries.get?_filter_key, if_neg h] at hm
      cases hm
    · obtain ⟨found, hfound, rfl⟩ := hway
      rw [Entries.get?, if_pos rfl] at hm
      cases hm
      exact hfound
  · rintro ⟨hn, hm⟩
    obtain ⟨first, hfirst, hbound⟩ := mem_placesOf.mp hn
    refine ⟨(d.other, m) :: first.filter (·.1 = var), mem_ways_seek.mpr ⟨first, hfirst, ?_⟩, ?_, ?_⟩
    · rw [if_neg (List.ne_nil_of_mem hm)]
      exact ⟨m, hm, rfl⟩
    · rw [Entries.get?, if_neg h.symm, Entries.get?_filter_key, if_pos rfl, hbound]
    · rw [Entries.get?, if_pos rfl]

/-! ## Edges that are drawn -/

theorem edges_link (σ : Scene) (origin relation head : String) (id : Json) :
    ∃ block, (σ.link origin relation head id).graph.edges = σ.graph.edges ++ block ∧
      ∀ e, e ∈ block ↔ (∃ way ∈ σ.ways, Entries.get? origin way = some e.origin ∧
        Entries.get? head way = some e.head) ∧ e.relation = relation ∧ e.id = id := by
  refine ⟨_, rfl, fun e => ?_⟩
  simp only [List.mem_filterMap, bind, Option.bind_eq_some_iff]
  constructor
  · rintro ⟨way, hway, start, hstart, stop, hstop, he⟩
    cases he
    exact ⟨⟨way, hway, hstart, hstop⟩, rfl, rfl⟩
  · rintro ⟨⟨way, hway, hstart, hstop⟩, rfl, rfl⟩
    exact ⟨way, hway, _, hstart, _, hstop, rfl⟩

theorem vertices_draw (var : String) (σ : Scene) (d : Drawing) :
    (σ.draw var d).graph.vertices = σ.graph.vertices := by
  rw [← graph_seek var σ d]
  rfl

theorem mem_placesOf_draw (h : d.other ≠ var) :
    n ∈ (σ.draw var d).placesOf var ↔ n ∈ σ.placesOf var := mem_placesOf_seek h

/-- A drawing joins every place of the variable with every vertex that is found. -/
theorem edges_draw (h : d.other ≠ var) :
    ∃ block, (σ.draw var d).graph.edges = σ.graph.edges ++ block ∧ ∀ e, e ∈ block ↔
      ∃ n ∈ σ.placesOf var, ∃ m ∈ σ.graph.find d.label (.string d.id),
        e.Joins n d.relation d.direction m ∧ e.id = .string d.edgeId := by
  obtain ⟨block, hedges, hmem⟩ := (σ.seek var d).edges_link (d.origin var) d.relation (d.head var)
    (.string d.edgeId)
  have hbound : ∀ e : Edge, (∃ way ∈ (σ.seek var d).ways,
      Entries.get? (d.origin var) way = some e.origin ∧
        Entries.get? (d.head var) way = some e.head) ↔ (e.seen d.direction).1 ∈ σ.placesOf var ∧
      (e.seen d.direction).2 ∈ σ.graph.find d.label (.string d.id) := by
    intro e
    rw [← bound_seek h, Drawing.origin, Drawing.head]
    cases d.direction with
    | incoming => simp only [Edge.seen, and_comm (a := Entries.get? d.other _ = _)]
    | outgoing => rfl
    | both => rfl
  refine ⟨block, by rw [draw, hedges, graph_seek], fun e => ?_⟩
  rw [hmem, hbound]
  constructor
  · rintro ⟨⟨hn, hm⟩, hrelation, hid⟩
    exact ⟨_, hn, _, hm, ⟨hrelation, rfl⟩, hid⟩
  · rintro ⟨n, hn, m, hm, ⟨hrelation, hends⟩, hid⟩
    rw [hends]
    exact ⟨⟨hn, hm⟩, hrelation, hid⟩

/-- Declared relations are drawn from the places of a variable, a block of edges for each. -/
theorem edges_drawAll (hvar : ∀ n, Statement.numbered "o" n ≠ var) {g : Graph} {places : List Nat}
    {links : List Declared} {ds : List Drawing} (hds : List.Forall₂ Drawing.Of links ds)
    (hvertices : σ.graph.vertices = g.vertices) (hplaces : ∀ n, n ∈ σ.placesOf var ↔ n ∈ places) :
    (ds.foldl (draw var) σ).graph.vertices = g.vertices ∧
      ∃ blocks, (ds.foldl (draw var) σ).graph.edges = σ.graph.edges ++ blocks.flatten ∧
        List.Forall₂ (g.Draws places) links blocks := by
  induction hds generalizing σ with
  | nil => exact ⟨hvertices, [], (List.append_nil _).symm, .nil⟩
  | @cons link d links ds hd _ ih =>
    obtain ⟨k, hk⟩ := hd.other
    have hother : d.other ≠ var := hk ▸ hvar k
    obtain ⟨block, hblock, hmem⟩ := edges_draw (σ := σ) hother
    obtain ⟨hlater, blocks, hblocks, hdraws⟩ := ih ((vertices_draw var σ d).trans hvertices)
      fun n => (mem_placesOf_draw hother).trans (hplaces n)
    obtain ⟨category, keys, hdecode, hlabel⟩ := hd.label
    have hlocated : g.located d.id = σ.graph.find d.label (.string d.id) := by
      rw [← Graph.located_of_vertices_eq hvertices, Graph.located_eq hdecode, hlabel]
    refine ⟨hlater, block :: blocks, ?_, .cons ⟨d.id, d.edgeId, hd.target, fun e => ?_⟩ hdraws⟩
    · rw [List.foldl_cons, hblocks, hblock, List.flatten_cons, List.append_assoc]
    · simp only [hmem, hplaces, hlocated, hd.relation, hd.direction]

end Scene

end DeviceGraph
