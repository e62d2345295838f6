import DeviceGraph.Proofs.Conversation
import DeviceGraph.Proofs.Store.Changes
import DeviceGraph.Proofs.Store.Creation
import DeviceGraph.Proofs.Store.Labels

/-!
# The vertex that a statement begins with

Most statements find one vertex by its id before anything else, and do nothing without it:
the labels of a vertex are read in this way, an update changes it, a component is added to
its device, and a group is placed beneath the group above it.
-/

set_option autoImplicit false

namespace DeviceGraph

namespace Statement

def opening? (s : Statement) : Option (String × Json) :=
  match s.clauses with
  | .findVertices [v] :: _ => some (v.label.name, s.value v.slot)
  | _ => none

/-- Whether a statement begins with the vertex of an id. -/
def Opens (s : Statement) (vertexId : String) : Prop :=
  ∃ category keys, Identity.decode vertexId = .ok (category, keys) ∧
    s.opening? = some (category.label, .string vertexId)

theorem Opens.unique {s : Statement} {vertexId other : String} (h : s.Opens vertexId)
    (g : s.Opens other) : vertexId = other := by
  obtain ⟨_, _, _, hopening⟩ := h
  obtain ⟨_, _, _, gopening⟩ := g
  rw [hopening] at gopening
  exact Json.string.inj (Prod.mk.inj (Option.some.inj gopening)).2

variable {access : Access} {s t : Statement} {var vertexId : String} {pattern : VertexPattern}

theorem clauses_vertex (h : s.vertex var vertexId = .ok (t, pattern)) : t.clauses = s.clauses := by
  obtain ⟨_, _, _, rfl, _⟩ := vertex_eq_ok h
  rfl

theorem clauses_of_vertex (h : ({ access } : Statement).vertex var vertexId = .ok (s, pattern)) :
    s.clauses = [] := clauses_vertex h

theorem opens_of_clauses (hv : ({ access } : Statement).vertex var vertexId = .ok (s, pattern))
    (hkept : ∀ {name v}, s.param? name = some v → t.param? name = some v) {cs : List Clause}
    (hc : t.clauses = .findVertices [pattern] :: cs) : t.Opens vertexId := by
  obtain ⟨category, keys, hd, rfl, rfl⟩ := vertex_eq_ok hv
  refine ⟨category, keys, hd, ?_⟩
  have hslot := hkept (param?_bindFresh_new _ "vid" (.string vertexId))
  simp only [opening?, hc, value, hslot]
  rfl

/-- Whatever follows the clause that finds the vertex, the statement begins with it. -/
theorem opens_of_writes {created : Created}
    (hv : ({ access } : Statement).vertex var vertexId = .ok (s, pattern))
    (h : Writes (s.push (.findVertices [pattern])) t created) : t.Opens vertexId := by
  obtain ⟨cs, hcs, _⟩ := h.clauses
  rw [push, clauses_of_vertex hv] at hcs
  exact opens_of_clauses hv h.kept hcs

end Statement

namespace Store
open Statement

/-! ## Reading labels -/

theorem opens_labels {vertexId : String} {s : Statement} (h : labelsStatement vertexId = .ok s) :
    s.Opens vertexId := by
  obtain ⟨⟨t, root⟩, hv, h⟩ := (Checks.bind_eq_ok_iff _ _ _).mp h
  cases h
  exact opens_of_clauses hv id (by rw [push, push, clauses_of_vertex hv]; rfl)

theorem access_labels {vertexId : String} {s : Statement} (h : labelsStatement vertexId = .ok s) :
    s.access = .read := by
  obtain ⟨⟨t, root⟩, hv, h⟩ := (Checks.bind_eq_ok_iff _ _ _).mp h
  obtain ⟨_, _, _, rfl, _⟩ := vertex_eq_ok hv
  cases h
  rfl

theorem readLabels_eq_ok_some {vertexId : String} {legacy : Bool} {rows : List Json}
    {labels : List String} (h : EntityCall.readLabels vertexId legacy rows = .ok (some labels)) :
    ∃ first rest row, rows = first :: rest ∧ LabelsRow.ofJson? first = some row ∧
      resolveLabels vertexId row legacy = .ok labels := by
  cases rows with
  | nil => cases h
  | cons first rest =>
    obtain ⟨row, hrow, h⟩ := (Checks.bind_eq_ok_iff _ _ _).mp h
    obtain ⟨_, hlabels, hsome⟩ := (Checks.map_eq_ok_iff _ _ _).mp h
    cases hsome
    refine ⟨first, rest, row, rfl, ?_, hlabels⟩
    rw [readRow] at hrow
    split at hrow
    · next hread => exact hread.trans (congrArg some (Except.ok.inj hrow))
    · cases hrow

def FindsLabels (vertexId : String) (legacy : Bool) (read : Exchange) : Prop :=
  labelsStatement vertexId = .ok read.1 ∧ ∃ first rest row labels,
    read.2 = .ok (first :: rest) ∧ LabelsRow.ofJson? first = some row ∧
    resolveLabels vertexId row legacy = .ok labels ∧ 2 ≤ labels.length

/-! ## Updates -/

theorem opens_update {vertexId : String} {attributes : Dict Json} {s : Statement}
    (h : updateStatement vertexId attributes = .ok (some s)) : s.Opens vertexId := by
  obtain ⟨t, root, u, changes, hv, hbound, hs⟩ := updateStatement_eq_ok h
  split at hs
  · cases hs
  · cases hs
    have hcs := clauses_withChanges u root changes
    rw [hbound.clauses, clauses_of_vertex hv] at hcs
    refine opens_of_clauses hv (fun hslot => ?_) hcs
    rw [param?_withChanges]
    exact hbound.writes.kept hslot

def OpensAt (id : Except DomainError String) (s : Statement) : Prop :=
  ∃ vertexId, id = .ok vertexId ∧ s.Opens vertexId

theorem opensAt_of_update_plan {id : Except DomainError String} {attributes : Dict Json}
    {ids : EdgeIds} {p : Plan Unit} (hp : (liftDomain id >>= fun vertexId =>
      (EntityCall.update vertexId attributes).plan ids) = .ok p) :
    ∀ s ∈ p.statement, OpensAt id s := by
  intro s hs
  obtain ⟨vertexId, hid, hp⟩ := (Checks.bind_eq_ok_iff _ _ _).mp hp
  obtain ⟨statement, hstatement, hp⟩ := (Checks.bind_eq_ok_iff _ _ _).mp hp
  cases hp
  cases hs
  exact ⟨vertexId, liftDomain_ok hid, opens_update hstatement⟩

/-! ## Creations -/

theorem opens_createComponent {ids : EdgeIds} {device vertexId : String} {component : Node}
    {s : Statement} (h : Devices.createComponentStatement ids device component = .ok (vertexId, s)) :
    OpensAt (Identity.deviceId device) s := by
  obtain ⟨deviceId, hdevice, h⟩ := (Checks.bind_eq_ok_iff _ _ _).mp h
  obtain ⟨id, _, h⟩ := (Checks.bind_eq_ok_iff _ _ _).mp h
  obtain ⟨⟨s₁, root⟩, hroot, h⟩ := (Checks.bind_eq_ok_iff _ _ _).mp h
  obtain ⟨s₂, hcreate, h⟩ := (Checks.bind_eq_ok_iff _ _ _).mp h
  cases h
  have hfound := (writes_vertex fresh_start hroot).fresh
  have hvertex := writes_createVertex (hfound.push _) hcreate
  have hedge := writes_createEdge hvertex.fresh ids "c" componentIdentifier "d"
  exact ⟨deviceId, liftDomain_ok hdevice, opens_of_writes hroot (hvertex.then_nothing hedge)⟩

theorem opens_of_findParent {s t : Statement} {path : String} {created : Created}
    (h : Groups.findParent { access := .write } (some path) = .ok s) (hw : Writes s t created) :
    OpensAt (Identity.groupId path) t := by
  obtain ⟨parentId, hid, h⟩ := (Checks.bind_eq_ok_iff _ _ _).mp h
  obtain ⟨⟨s₀, pattern⟩, hv, h⟩ := (Checks.bind_eq_ok_iff _ _ _).mp h
  cases h
  exact ⟨parentId, liftDomain_ok hid, opens_of_writes hv hw⟩

/-- A new group begins with the group above it, if its node names one. -/
theorem opens_createStatement_iff {ids : EdgeIds} {group : Node} {groups : Relations}
    {vertexId : String} {s : Statement}
    (h : Groups.createStatement ids group groups = .ok (vertexId, s)) (parentId : String) :
    s.Opens parentId ↔ ∃ path, Groups.parentPath? group = some path ∧
      Identity.groupId path = .ok parentId := by
  obtain ⟨id, hid, h⟩ := (Checks.bind_eq_ok_iff _ _ _).mp h
  obtain ⟨s₁, hparent, h⟩ := (Checks.bind_eq_ok_iff _ _ _).mp h
  obtain ⟨s₂, hcreate, h⟩ := (Checks.bind_eq_ok_iff _ _ _).mp h
  obtain ⟨s₃, hlinks, h⟩ := (Checks.bind_eq_ok_iff _ _ _).mp h
  cases h
  cases hp : Groups.parentPath? group with
  | none =>
    rw [hp] at hparent hlinks
    cases hparent
    -- the first clause creates the vertex, so there is none that is found
    have hmore := writes_linkAll (writes_createVertex fresh_start hcreate).fresh hlinks
    obtain ⟨cs, hcs, _⟩ := hmore.clauses
    obtain ⟨labels, _, rfl⟩ := createVertex_eq_ok hcreate
    have hnone : s.opening? = none := by
      rw [opening?, hcs]
      rfl
    constructor
    · rintro ⟨_, _, _, hopening⟩
      rw [hnone] at hopening
      cases hopening
    · rintro ⟨_, hpath, _⟩
      cases hpath
  | some path =>
    rw [hp] at hparent hlinks
    have hvertex := writes_createVertex (Groups.writes_findParent fresh_start hparent).fresh hcreate
    have hedge := writes_createEdge hvertex.fresh ids "v" parentIdentifier "parent"
    obtain ⟨foundId, hfoundId, hopens⟩ := opens_of_findParent hparent
      (hvertex.then_nothing (hedge.then_nothing (writes_linkAll hedge.fresh hlinks)))
    constructor
    · intro hopens'
      exact ⟨path, rfl, hopens.unique hopens' ▸ hfoundId⟩
    · rintro ⟨path', hpath, hid'⟩
      cases hpath
      rw [hfoundId] at hid'
      cases hid'
      exact hopens

end Store

end DeviceGraph
