import DeviceGraph.Proofs.Statement.Closed
import DeviceGraph.Proofs.Store.Changes

/-!
# The clauses that a statement grows by

A statement is put together from blocks: one that finds a vertex, one that creates a
vertex, one that draws an edge, and one that draws an edge to a vertex that may not
exist. A block brings as many new parameters as it mentions. What it says of their
values stays true, as later blocks bind no name again.
-/

set_option autoImplicit false

namespace DeviceGraph

def Clause.vars : Clause → List String
  | findVertices vs => vs.map (·.var)
  | findOptional v => [v.var]
  | findEdges origin _ head => [origin.var, "e", head.var]
  | createVertex var .. => [var]
  | _ => []

structure Declared where
  direction : Direction
  relation : String
  target : Except DomainError String

namespace Statement

variable {s t u : Statement}

structure Extends (s t : Statement) (cs : List Clause) : Prop where
  fresh : t.Fresh
  kept : ∀ {name v}, s.param? name = some v → t.param? name = some v
  clauses : t.clauses = s.clauses ++ cs
  size : t.params.size = s.params.size + (cs.flatMap Clause.slots).length

theorem Extends.refl (h : s.Fresh) : Extends s s [] :=
  ⟨h, id, (List.append_nil _).symm, rfl⟩

theorem Extends.trans {cs ds : List Clause} (h : Extends s t cs) (g : Extends t u ds) :
    Extends s u (cs ++ ds) where
  fresh := g.fresh
  kept := fun hv => g.kept (h.kept hv)
  clauses := by rw [g.clauses, h.clauses, List.append_assoc]
  size := by rw [g.size, h.size, List.flatMap_append, List.length_append, Nat.add_assoc]

/-! ## Blocks -/

def Finds (s : Statement) (var vertexId : String) (cs : List Clause) : Prop :=
  ∃ category keys slot, Identity.decode vertexId = .ok (category, keys) ∧
    cs = [.findVertices [⟨var, category.identifier, slot⟩]] ∧
    s.param? slot = some (.string vertexId)

def Creates (s : Statement) (var vertexId keyProperty : String) (node : Node)
    (category : Category) (cs : List Clause) : Prop :=
  ∃ labels idSlot chainSlot propsSlot, vertexLabels node category vertexId = .ok labels ∧
    cs = [.createVertex var labels idSlot chainSlot, .mergeProperties var propsSlot] ∧
    s.param? idSlot = some (.string vertexId) ∧
    s.param? chainSlot = some (.string node.typeChain) ∧
    s.param? propsSlot = some (.ofDict (creationProperties node keyProperty))

def Joins (s : Statement) (origin relation head : String) (cs : List Clause) : Prop :=
  ∃ identifier slot id, cs = [.createEdge ⟨origin, identifier, slot, head⟩] ∧
    identifier.name = relation ∧ s.param? slot = some (.string id)

def Draws (s : Statement) (var : String) (link : Declared) (cs : List Clause) : Prop :=
  ∃ otherId category keys other slot edge id, link.target = .ok otherId ∧
    Identity.decode otherId = .ok (category, keys) ∧
    cs = [.keep var, .findOptional ⟨other, category.identifier, slot⟩,
      .createEdgeIfFound other edge] ∧
    s.param? slot = some (.string otherId) ∧ s.param? edge.slot = some (.string id) ∧
    edge.relation.name = link.relation ∧
    (edge.origin, edge.head) = if link.direction = .outgoing then (var, other) else (other, var)

section Kept

variable {var vertexId keyProperty origin relation head : String} {node : Node}
  {category : Category} {link : Declared} {cs ds : List Clause}

theorem Finds.kept (h : s.Finds var vertexId cs) (g : Extends s t ds) :
    t.Finds var vertexId cs := by
  obtain ⟨category, keys, slot, hd, hcs, hslot⟩ := h
  exact ⟨category, keys, slot, hd, hcs, g.kept hslot⟩

theorem Creates.kept (h : s.Creates var vertexId keyProperty node category cs)
    (g : Extends s t ds) : t.Creates var vertexId keyProperty node category cs := by
  obtain ⟨labels, idSlot, chainSlot, propsSlot, hlabels, hcs, hid, hchain, hprops⟩ := h
  exact ⟨labels, idSlot, chainSlot, propsSlot, hlabels, hcs, g.kept hid, g.kept hchain,
    g.kept hprops⟩

theorem Joins.kept (h : s.Joins origin relation head cs) (g : Extends s t ds) :
    t.Joins origin relation head cs := by
  obtain ⟨identifier, slot, id, hcs, hname, hslot⟩ := h
  exact ⟨identifier, slot, id, hcs, hname, g.kept hslot⟩

theorem Draws.kept (h : s.Draws var link cs) (g : Extends s t ds) : t.Draws var link cs := by
  obtain ⟨otherId, category, keys, other, slot, edge, id, htarget, hd, hcs, hslot, hedge, hends⟩ := h
  exact ⟨otherId, category, keys, other, slot, edge, id, htarget, hd, hcs, g.kept hslot,
    g.kept hedge, hends⟩

/-! How many parameters a block mentions, and which variables it introduces. -/

theorem Finds.counted (h : s.Finds var vertexId cs) :
    cs.flatMap Clause.vars = [var] ∧ (cs.flatMap Clause.slots).length = 1 := by
  obtain ⟨_, _, _, _, rfl, _⟩ := h
  exact ⟨rfl, rfl⟩

theorem Creates.counted (h : s.Creates var vertexId keyProperty node category cs) :
    cs.flatMap Clause.vars = [var] ∧ (cs.flatMap Clause.slots).length = 3 := by
  obtain ⟨_, _, _, _, _, rfl, _⟩ := h
  exact ⟨rfl, rfl⟩

theorem Joins.counted (h : s.Joins origin relation head cs) :
    cs.flatMap Clause.vars = [] ∧ (cs.flatMap Clause.slots).length = 1 := by
  obtain ⟨_, _, _, rfl, _⟩ := h
  exact ⟨rfl, rfl⟩

end Kept

/-! ## The blocks that are made -/

theorem extends_vertex (h : s.Fresh) {var vertexId : String} {pattern : VertexPattern}
    (hv : s.vertex var vertexId = .ok (t, pattern)) :
    Extends s (t.push (.findVertices [pattern])) [.findVertices [pattern]] ∧
      (t.push (.findVertices [pattern])).Finds var vertexId [.findVertices [pattern]] := by
  have hwrites := writes_vertex h hv
  obtain ⟨category, keys, hd, rfl, rfl⟩ := vertex_eq_ok hv
  exact ⟨⟨hwrites.fresh, hwrites.kept, rfl, h.size_bindFresh stems_lettered.1 _⟩,
    category, keys, _, hd, rfl, param?_bindFresh_new s "vid" _⟩

theorem size_bindVertex (h : s.Fresh) (vertexId : String) (node : Node) (keyProperty : String) :
    (s.bindVertex vertexId node keyProperty).params.size = s.params.size + 3 := by
  obtain ⟨_, _, hid, hlabel, hprops⟩ := stems_lettered
  have h₁ := h.bindFresh hid (.string vertexId)
  have h₂ := h₁.bindFresh hlabel (.string node.typeChain)
  rw [bindVertex, h₂.size_bindFresh hprops, h₁.size_bindFresh hlabel, h.size_bindFresh hid]

theorem extends_createVertex (h : s.Fresh) {var vertexId keyProperty : String} {node : Node}
    {category : Category} (hc : s.createVertex var vertexId node category keyProperty = .ok t) :
    ∃ cs, Extends s t cs ∧ t.Creates var vertexId keyProperty node category cs := by
  have hwrites := writes_createVertex h hc
  obtain ⟨labels, hlabels, rfl⟩ := createVertex_eq_ok hc
  obtain ⟨_, hid, hchain, hprops⟩ := writes_bindVertex h vertexId node keyProperty
  exact ⟨_, ⟨hwrites.fresh, hwrites.kept, List.append_assoc _ _ _,
    size_bindVertex h vertexId node keyProperty⟩,
    labels, _, _, _, hlabels, rfl, hid, hchain, hprops⟩

theorem extends_createEdge (h : s.Fresh) (ids : EdgeIds) (origin : String)
    (relation : Identifier) (head : String) :
    ∃ cs, Extends s (s.createEdge ids origin relation head) cs ∧
      (s.createEdge ids origin relation head).Joins origin relation.name head cs := by
  have hwrites := writes_createEdge h ids origin relation head
  exact ⟨_, ⟨hwrites.fresh, hwrites.kept, rfl, h.size_bindFresh stems_lettered.2.1 _⟩,
    relation, _, _, rfl, rfl, param?_bindFresh_new s "eid" _⟩

def bindEnds (s : Statement) (ids : EdgeIds) (otherId : String) : Statement :=
  ((s.bindFresh "vid" (.string otherId)).1.bindEdgeId ids).1

theorem linkIfFound_eq_ok {ids : EdgeIds} {var relation otherId : String} {direction : Direction}
    (hdirection : direction ≠ .both)
    (hl : s.linkIfFound ids var direction relation otherId = .ok t) :
    ∃ category keys edge, Identity.decode otherId = .ok (category, keys) ∧
      t = (((s.bindEnds ids otherId).push (.keep var)).push (.findOptional
        ⟨numbered "o" s.params.size, category.identifier, numbered "vid" s.issued⟩)).push
          (.createEdgeIfFound (numbered "o" s.params.size) edge) ∧
      edge.slot = numbered "eid" (s.issued + 1) ∧ edge.relation.name = relation ∧
      (edge.origin, edge.head) = if direction = .outgoing then (var, numbered "o" s.params.size)
        else (numbered "o" s.params.size, var) := by
  obtain ⟨identifier, hidentifier, hl⟩ := (Checks.bind_eq_ok_iff _ _ _).mp hl
  obtain ⟨⟨s₁, pattern⟩, hv, hl⟩ := (Checks.bind_eq_ok_iff _ _ _).mp hl
  obtain ⟨category, keys, hd, rfl, rfl⟩ := vertex_eq_ok hv
  have hname := (Identifier.of_eq_ok_iff _ _).mp hidentifier
  have hok := (Except.ok.inj hl).symm
  cases direction with
  | both => exact absurd rfl hdirection
  | incoming => exact ⟨category, keys, _, hd, hok, rfl, hname, rfl⟩
  | outgoing => exact ⟨category, keys, _, hd, hok, rfl, hname, rfl⟩

/-- The variable of the other end is numbered by the parameters that are bound before. -/
theorem extends_linkIfFound (h : s.Fresh) {ids : EdgeIds} {var relation otherId : String}
    {direction : Direction} (hdirection : direction ≠ .both)
    (hl : s.linkIfFound ids var direction relation otherId = .ok t) :
    ∃ cs, Extends s t cs ∧ t.Draws var ⟨direction, relation, .ok otherId⟩ cs ∧
      cs.flatMap Clause.vars = [numbered "o" s.params.size] ∧
      t.params.size = s.params.size + 2 := by
  have hwrites := writes_linkIfFound h hl
  obtain ⟨category, keys, edge, hd, rfl, hedge, hname, hends⟩ := linkIfFound_eq_ok hdirection hl
  have hvid := Writes.bindFresh h stems_lettered.1 (.string otherId)
  have heid := Writes.bindFresh hvid.fresh stems_lettered.2.1
    (.string (ids (s.bindFresh "vid" (.string otherId)).1.issued))
  have hsize : (s.bindEnds ids otherId).params.size = s.params.size + 2 :=
    (hvid.fresh.size_bindFresh stems_lettered.2.1 _).trans
      (congrArg (· + 1) (h.size_bindFresh stems_lettered.1 _))
  have hother := heid.kept (param?_bindFresh_new s "vid" (.string otherId))
  have hslot := hedge ▸ param?_bindFresh_new (s.bindFresh "vid" (.string otherId)).1 "eid"
    (.string (ids (s.bindFresh "vid" (.string otherId)).1.issued))
  refine ⟨_, ⟨hwrites.fresh, hwrites.kept, ?_, ?_⟩, ⟨otherId, category, keys, _, _, edge, _, rfl,
    hd, rfl, hother, hslot, hname, hends⟩, rfl, hsize⟩
  · simp only [push, List.append_assoc]
    rfl
  · exact hsize

/-! ## Sequences of blocks -/

structure NumberedBetween (stem : String) (first last : Nat) (names : List String) : Prop where
  nodup : names.Nodup
  numbered : ∀ name ∈ names, ∃ n, first ≤ n ∧ n < last ∧ name = numbered stem n

theorem NumberedBetween.nil (stem : String) (first last : Nat) :
    NumberedBetween stem first last [] := ⟨List.nodup_nil, fun _ hm => absurd hm List.not_mem_nil⟩

theorem NumberedBetween.append {stem : String} (hstem : Lettered stem) {a b c : Nat}
    {names others : List String} (h : NumberedBetween stem a b names)
    (g : NumberedBetween stem b c others) (hab : a ≤ b) (hbc : b ≤ c) :
    NumberedBetween stem a c (names ++ others) where
  nodup := by
    refine List.nodup_append.mpr ⟨h.nodup, g.nodup, fun name hm other ho heq => ?_⟩
    obtain ⟨n, _, hn, rfl⟩ := h.numbered name hm
    obtain ⟨k, hk, _, rfl⟩ := g.numbered other ho
    have hnk := (numbered_inj hstem hstem heq).2
    omega
  numbered := by
    intro name hm
    rcases List.mem_append.mp hm with hm | hm
    · obtain ⟨n, hle, hlt, hname⟩ := h.numbered name hm
      exact ⟨n, hle, by omega, hname⟩
    · obtain ⟨n, hle, hlt, hname⟩ := g.numbered name hm
      exact ⟨n, by omega, hlt, hname⟩

theorem NumberedBetween.single (stem : String) {first last : Nat} (h : first < last) :
    NumberedBetween stem first last [Statement.numbered stem first] :=
  ⟨List.nodup_cons.mpr ⟨List.not_mem_nil, List.nodup_nil⟩,
    fun _ hm => ⟨first, Nat.le_refl first, h, List.mem_singleton.mp hm⟩⟩

def declared (encode : String → Except DomainError String)
    (links : List (Direction × String × String)) : List Declared :=
  links.map fun link => ⟨link.1, link.2.1, encode link.2.2⟩

@[simp] theorem length_declared (encode : String → Except DomainError String)
    (links : List (Direction × String × String)) : (declared encode links).length = links.length :=
  List.length_map _

theorem extends_linkAll (h : s.Fresh) {ids : EdgeIds} {var : String}
    {encode : String → Except DomainError String} {links : List (Direction × String × String)}
    (hdirections : ∀ link ∈ links, link.1 ≠ .both)
    (hl : linkAll ids var encode s links = .ok t) :
    ∃ blocks, Extends s t blocks.flatten ∧
      List.Forall₂ (t.Draws var) (declared encode links) blocks ∧
      NumberedBetween "o" s.params.size t.params.size (blocks.flatten.flatMap Clause.vars) ∧
      t.params.size = s.params.size + 2 * links.length := by
  induction links generalizing s with
  | nil =>
    cases hl
    exact ⟨[], .refl h, .nil, .nil .., rfl⟩
  | cons link links ih =>
    obtain ⟨direction, relation, key⟩ := link
    obtain ⟨otherId, hid, hl⟩ := (Checks.bind_eq_ok_iff _ _ _).mp hl
    obtain ⟨s₁, hlink, hl⟩ := (Checks.bind_eq_ok_iff _ _ _).mp hl
    obtain ⟨hdirection, hrest⟩ := List.forall_mem_cons.mp hdirections
    obtain ⟨cs, hcs, hdraws, hvars, hsize⟩ := extends_linkIfFound h hdirection hlink
    obtain ⟨blocks, hblocks, hall, hnames, htotal⟩ := ih hcs.fresh hrest hl
    refine ⟨cs :: blocks, hcs.trans hblocks, .cons ?_ hall, ?_, ?_⟩
    · have hencode : encode key = .ok otherId := (Checks.mapError_eq_ok_iff _ _ _).mp hid
      show t.Draws var ⟨direction, relation, encode key⟩ cs
      rw [hencode]
      exact hdraws.kept hblocks
    · rw [List.flatten_cons, List.flatMap_append, hvars]
      exact (NumberedBetween.single "o" (by omega)).append (by decide) hnames (by omega) (by omega)
    · rw [htotal, hsize, List.length_cons]
      omega

end Statement

end DeviceGraph
