import DeviceGraph.Proofs.Engine
import DeviceGraph.Proofs.Statement.Records

/-!
# The graph that statements build

A graph holds vertices, each known by its place, and edges between places. A
statement runs clause by clause on the graph and on the ways in which its variables
are bound to places: finding binds a variable in every possible way, and each clause
that creates or changes does so once for each way. Several vertices may have one id.

Only creations and changes are run on a graph here. Clauses that read leave it as it
is, and deletions are not among those that are run.
-/

set_option autoImplicit false

namespace DeviceGraph

structure Vertex where
  labels : List String
  properties : Properties

structure Edge where
  origin : Nat
  relation : String
  head : Nat
  id : Json

@[ext]
structure Graph where
  vertices : List Vertex := []
  edges : List Edge := []

def Vertex.isAt (v : Vertex) (label : String) (id : Json) : Bool :=
  v.labels.contains label && decide (v.properties.get? idProperty = some id)

theorem Vertex.id_of_isAt (v : Vertex) {label : String} {id : Json} (h : v.isAt label id = true) :
    v.properties.get? idProperty = some id := by
  rw [isAt, Bool.and_eq_true] at h
  exact of_decide_eq_true h.2

abbrev Places := List (String × Nat)

/-- A graph, and each way in which the variables of a statement are bound in it. -/
@[ext]
structure Scene where
  graph : Graph
  ways : List Places

namespace Graph

def find (g : Graph) (label : String) (id : Json) : List Nat :=
  (List.range g.vertices.length).filter fun n => g.vertices[n]?.any (·.isAt label id)

theorem mem_find {g : Graph} {label : String} {id : Json} {n : Nat} :
    n ∈ g.find label id ↔ ∃ v, g.vertices[n]? = some v ∧ v.isAt label id = true := by
  rw [find, List.mem_filter, List.mem_range, Option.any_eq_true]
  constructor
  · exact fun h => h.2
  · rintro ⟨v, hv, hat⟩
    exact ⟨(List.getElem?_eq_some_iff.mp hv).1, v, hv, hat⟩

def modify (g : Graph) (places : List Nat) (change : Properties → Properties) : Graph :=
  { g with vertices := g.vertices.mapIdx fun n v =>
      if n ∈ places then { v with properties := change v.properties } else v }

theorem getElem?_modify (g : Graph) (places : List Nat) (change : Properties → Properties)
    (n : Nat) : (g.modify places change).vertices[n]? = g.vertices[n]?.map fun v =>
      if n ∈ places then { v with properties := change v.properties } else v := by
  rw [modify, List.getElem?_mapIdx]

theorem modify_modify (g : Graph) (places : List Nat) (first next : Properties → Properties) :
    (g.modify places first).modify places next = g.modify places (next ∘ first) := by
  refine Graph.ext (List.ext_getElem? fun n => ?_) rfl
  rw [getElem?_modify, getElem?_modify, getElem?_modify, Option.map_map]
  by_cases hn : n ∈ places <;> simp [hn, Function.comp_def]

theorem modify_id (g : Graph) (places : List Nat) : g.modify places id = g := by
  refine Graph.ext (List.ext_getElem? fun n => ?_) rfl
  rw [getElem?_modify]
  simp

/-- A change at the places that a pattern finds changes every vertex that fits it. -/
theorem modify_find (g : Graph) (label : String) (id : Json) (change : Properties → Properties) :
    (g.modify (g.find label id) change).vertices = g.vertices.map fun v =>
      if v.isAt label id then { v with properties := change v.properties } else v := by
  refine List.ext_getElem? fun n => ?_
  rw [getElem?_modify, List.getElem?_map]
  cases hv : g.vertices[n]? with
  | none => rfl
  | some v =>
    have hmem : n ∈ g.find label id ↔ v.isAt label id = true := by
      rw [mem_find]
      exact ⟨fun ⟨w, hw, hat⟩ => Option.some.inj (hv.symm.trans hw) ▸ hat, fun hat => ⟨v, hv, hat⟩⟩
    simp [hmem]

end Graph

namespace Scene

def placesOf (σ : Scene) (var : String) : List Nat := σ.ways.filterMap (Entries.get? var)

def find (σ : Scene) (var label : String) (id : Json) : Scene :=
  { σ with ways := σ.ways.flatMap fun way =>
      (σ.graph.find label id).map fun n => (var, n) :: way }

/-- Goes on without the variable where there is no such vertex. -/
def findOptional (σ : Scene) (var label : String) (id : Json) : Scene :=
  if σ.graph.find label id = [] then σ else σ.find var label id

def keep (σ : Scene) (var : String) : Scene :=
  { σ with ways := σ.ways.map fun way => way.filter (·.1 = var) }

def create (σ : Scene) (var : String) (v : Vertex) : Scene where
  graph := { σ.graph with vertices := σ.graph.vertices ++ List.replicate σ.ways.length v }
  ways := σ.ways.mapIdx fun i way => (var, σ.graph.vertices.length + i) :: way

def modify (σ : Scene) (var : String) (change : Properties → Properties) : Scene :=
  { σ with graph := σ.graph.modify (σ.placesOf var) change }

/-- Creates one edge for each way that binds both of its ends. -/
def link (σ : Scene) (origin relation head : String) (id : Json) : Scene :=
  { σ with graph := { σ.graph with edges := σ.graph.edges ++ σ.ways.filterMap fun way => do
      let start ← Entries.get? origin way
      let stop ← Entries.get? head way
      return ⟨start, relation, stop, id⟩ } }

theorem mem_placesOf_create (σ : Scene) (var : String) (v : Vertex) (n : Nat) :
    n ∈ (σ.create var v).placesOf var ↔
      σ.graph.vertices.length ≤ n ∧ n < σ.graph.vertices.length + σ.ways.length := by
  rw [placesOf, List.mem_filterMap]
  constructor
  · rintro ⟨way, hway, hn⟩
    obtain ⟨i, hi, rfl⟩ := List.mem_mapIdx.mp hway
    rw [Entries.get?, if_pos rfl] at hn
    cases hn
    omega
  · rintro ⟨hle, hlt⟩
    refine ⟨_, List.mem_mapIdx.mpr ⟨n - σ.graph.vertices.length, by omega, rfl⟩, ?_⟩
    rw [Entries.get?, if_pos rfl]
    congr 1
    omega

theorem modify_modify (σ : Scene) (var : String) (first next : Properties → Properties) :
    (σ.modify var first).modify var next = σ.modify var (next ∘ first) :=
  Scene.ext (σ.graph.modify_modify (σ.placesOf var) first next) rfl

theorem modify_id (σ : Scene) (var : String) : σ.modify var id = σ := by
  rw [modify, Graph.modify_id]

/-- What is created and then changed is created as changed. -/
theorem modify_create (σ : Scene) (var : String) (v : Vertex) (change : Properties → Properties) :
    (σ.create var v).modify var change =
      σ.create var { v with properties := change v.properties } := by
  refine Scene.ext (Graph.ext ?_ rfl) rfl
  refine List.ext_getElem? fun n => ?_
  rw [modify, Graph.getElem?_modify]
  simp only [mem_placesOf_create]
  simp only [create, List.getElem?_append, List.getElem?_replicate]
  by_cases hold : n < σ.graph.vertices.length
  · simp [hold, Nat.not_le.mpr hold]
  · by_cases hnew : n - σ.graph.vertices.length < σ.ways.length
    · have hbounds : σ.graph.vertices.length ≤ n ∧
          n < σ.graph.vertices.length + σ.ways.length := by omega
      simp [hold, hnew, hbounds]
    · simp [hold, hnew]

end Scene

def Clause.act (value : String → Json) (σ : Scene) : Clause → Scene
  | findVertices patterns =>
    patterns.foldl (fun σ v => σ.find v.var v.label.name (value v.slot)) σ
  | findOptional v => σ.findOptional v.var v.label.name (value v.slot)
  | keep var => σ.keep var
  | createVertex var labels idSlot chainSlot => σ.create var
      ⟨labels.map (·.name), (Properties.put .empty idProperty (value idSlot)).put labelProperty
        (value chainSlot)⟩
  | mergeProperties var slot => σ.modify var fun p => change value var p (mergeProperties var slot)
  | setProperties var items => σ.modify var fun p => change value var p (setProperties var items)
  | removeProperties var keys => σ.modify var fun p => change value var p (removeProperties var keys)
  | createEdge e | createEdgeIfFound _ e => σ.link e.origin e.relation.name e.head (value e.slot)
  | _ => σ

namespace Statement

def scene (s : Statement) (g : Graph) : Scene := s.clauses.foldl (Clause.act s.value) ⟨g, [[]]⟩

def apply (s : Statement) (g : Graph) : Graph := (s.scene g).graph

theorem scene_push (s : Statement) (c : Clause) (g : Graph) :
    (s.push c).scene g = c.act s.value (s.scene g) := by
  rw [scene, push, List.foldl_append]
  rfl

end Statement

end DeviceGraph
