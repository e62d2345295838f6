import DeviceGraph.Proofs.Assembly.Node
import DeviceGraph.Proofs.Engine
import DeviceGraph.Proofs.Identity
import DeviceGraph.Store.Devices
import DeviceGraph.Store.Groups
import Mathlib.Data.List.Forall2

/-!
# What a creation writes

Devices are created with their components, and components and groups on their
own. Each creation that succeeds submits one statement, which writes one record
for every entity: the record of its node under the vertex id of its keys.
-/

set_option autoImplicit false

namespace DeviceGraph.Store
open Statement

def keyPropertyOf : Category → String
  | .group => Groups.keyProperty
  | .device | .component => Devices.keyProperty

theorem not_isReserved_keyPropertyOf (category : Category) :
    isReserved (keyPropertyOf category) = false := by
  cases category <;> decide

abbrev Entity := Node × Category

/-- A record of an entity, under a vertex id that ends in its natural key. -/
def Recorded (entity : Entity) (record : Properties) : Prop :=
  ∃ vertexId keys, Identity.decode vertexId = .ok (entity.2, keys) ∧
    keys.getLastD "" = entity.1.id ∧
    record = vertexRecord vertexId entity.1 (keyPropertyOf entity.2)

theorem recorded_of_encode {category : Category} {keys : List String} {vertexId : String}
    (h : Identity.encode category keys = .ok vertexId) {node : Node}
    (hk : keys.getLastD "" = node.id) :
    Recorded (node, category) (vertexRecord vertexId node (keyPropertyOf category)) :=
  ⟨vertexId, keys, Identity.decode_of_encode h, hk, rfl⟩

def WritesEntities (s t : Statement) (entities : List Entity) : Prop :=
  ∃ new, Writes s t new ∧ List.Forall₂ Recorded entities (new.map (·.2))

theorem fresh_start : ({ access := .write } : Statement).Fresh := fresh_new .write

theorem liftDomain_ok {α : Type} {result : Except DomainError α} {a : α}
    (h : liftDomain result = .ok a) : result = .ok a := (Checks.mapError_eq_ok_iff _ _ _).mp h

namespace Devices

/-- Components are written under numbered variables, from number `i` on. -/
theorem writes_createComponents {ids : EdgeIds} {device : String} {components : List Node}
    {s t : Statement} {i : Nat} (hs : s.Fresh)
    (h : createComponents ids device s i components = .ok t) :
    ∃ new, Writes s t new ∧
      List.Forall₂ Recorded (components.map (·, Category.component)) (new.map (·.2)) ∧
      ∀ v ∈ new, ∃ j, i ≤ j ∧ v.1 = numbered "c" j := by
  induction components generalizing s i with
  | nil =>
    cases h
    exact ⟨[], .refl hs, .nil, fun _ hm => absurd hm List.not_mem_nil⟩
  | cons component rest ih =>
    obtain ⟨vertexId, hid, h⟩ := (Checks.bind_eq_ok_iff _ _ _).mp h
    obtain ⟨s₁, hcreate, h⟩ := (Checks.bind_eq_ok_iff _ _ _).mp h
    have hvertex := writes_createVertex hs hcreate
    have hedge := writes_createEdge hvertex.fresh ids ("c" ++ decimalText i) componentIdentifier "v"
    obtain ⟨new, hnew, hrecords, hvars⟩ := ih hedge.fresh h
    refine ⟨_, (hvertex.then_nothing hedge).trans hnew ?_, ?_, ?_⟩
    · intro v hv hm
      rw [List.mem_singleton] at hv
      subst hv
      obtain ⟨w, hw, heq⟩ := List.mem_map.mp hm
      obtain ⟨j, hj, hvar⟩ := hvars w hw
      have hij := (numbered_inj (by decide) (by decide) (hvar.symm.trans heq)).2
      omega
    · exact .cons (recorded_of_encode (liftDomain_ok hid) rfl) hrecords
    · intro v hv
      rcases List.mem_cons.mp hv with rfl | hv
      · exact ⟨i, Nat.le_refl i, rfl⟩
      · obtain ⟨j, hj, hvar⟩ := hvars v hv
        exact ⟨j, by omega, hvar⟩

theorem writes_createStatement {ids : EdgeIds} {device : Node} {groups devices : Relations}
    {components : List Node} {vertexId : String} {s : Statement}
    (h : createStatement ids device groups devices components = .ok (vertexId, s)) :
    WritesEntities { access := .write } s
      ((device, .device) :: components.map (·, .component)) := by
  obtain ⟨id, hid, h⟩ := (Checks.bind_eq_ok_iff _ _ _).mp h
  obtain ⟨s₁, hcreate, h⟩ := (Checks.bind_eq_ok_iff _ _ _).mp h
  obtain ⟨s₂, hcomponents, h⟩ := (Checks.bind_eq_ok_iff _ _ _).mp h
  obtain ⟨s₃, hgroups, h⟩ := (Checks.bind_eq_ok_iff _ _ _).mp h
  obtain ⟨s₄, hdevices, h⟩ := (Checks.bind_eq_ok_iff _ _ _).mp h
  cases h
  have hvertex := writes_createVertex fresh_start hcreate
  obtain ⟨new, hnew, hrecords, hvars⟩ := writes_createComponents hvertex.fresh hcomponents
  have hlinks := writes_linkAll hnew.fresh hgroups
  have hmore := writes_linkAll hlinks.fresh hdevices
  have hall := hvertex.trans (hnew.then_nothing (hlinks.then_nothing hmore)) (by
    intro v hv hm
    rw [List.mem_singleton] at hv
    subst hv
    obtain ⟨w, hw, heq⟩ := List.mem_map.mp hm
    obtain ⟨j, _, hvar⟩ := hvars w hw
    have hlettered : Lettered "v" := by decide
    exact lettered_ne_numbered hlettered "c" j (heq.symm.trans hvar))
  exact ⟨_, hall, .cons (recorded_of_encode (liftDomain_ok hid) rfl) hrecords⟩

theorem writes_createComponentStatement {ids : EdgeIds} {device : String} {component : Node}
    {vertexId : String} {s : Statement}
    (h : createComponentStatement ids device component = .ok (vertexId, s)) :
    WritesEntities { access := .write } s [(component, .component)] := by
  obtain ⟨_, _, h⟩ := (Checks.bind_eq_ok_iff _ _ _).mp h
  obtain ⟨id, hid, h⟩ := (Checks.bind_eq_ok_iff _ _ _).mp h
  obtain ⟨⟨s₁, root⟩, hroot, h⟩ := (Checks.bind_eq_ok_iff _ _ _).mp h
  obtain ⟨s₂, hcreate, h⟩ := (Checks.bind_eq_ok_iff _ _ _).mp h
  cases h
  have hfound := writes_vertex fresh_start hroot
  have hmatch := Writes.push hfound.fresh (c := .findVertices [root]) trivial
  have hvertex := writes_createVertex hmatch.fresh hcreate
  have hedge := writes_createEdge hvertex.fresh ids "c" componentIdentifier "d"
  have hall := (hfound.then_nothing hmatch).after_nothing (hvertex.then_nothing hedge)
  exact ⟨_, hall, .cons (recorded_of_encode (liftDomain_ok hid) rfl) .nil⟩

end Devices

namespace Groups

theorem writes_findParent {s t : Statement} (hs : s.Fresh) {parent : Option String}
    (h : findParent s parent = .ok t) : Writes s t [] := by
  cases parent with
  | none =>
    cases h
    exact .refl hs
  | some path =>
    obtain ⟨_, _, h⟩ := (Checks.bind_eq_ok_iff _ _ _).mp h
    obtain ⟨⟨s₁, pattern⟩, hv, h⟩ := (Checks.bind_eq_ok_iff _ _ _).mp h
    cases h
    have hfound := writes_vertex hs hv
    exact hfound.then_nothing (.push hfound.fresh trivial)

theorem writes_createStatement {ids : EdgeIds} {group : Node} {groups : Relations}
    {vertexId : String} {s : Statement}
    (h : createStatement ids group groups = .ok (vertexId, s)) :
    WritesEntities { access := .write } s [(group, .group)] := by
  obtain ⟨id, hid, h⟩ := (Checks.bind_eq_ok_iff _ _ _).mp h
  obtain ⟨s₁, hparent, h⟩ := (Checks.bind_eq_ok_iff _ _ _).mp h
  obtain ⟨s₂, hcreate, h⟩ := (Checks.bind_eq_ok_iff _ _ _).mp h
  obtain ⟨s₃, hlinks, h⟩ := (Checks.bind_eq_ok_iff _ _ _).mp h
  cases h
  have habove := writes_findParent fresh_start hparent
  have hvertex := writes_createVertex habove.fresh hcreate
  have hedge : Writes s₂ (if (parentPath? group).isSome then
      s₂.createEdge ids "v" parentIdentifier "parent" else s₂) [] := by
    split
    · exact writes_createEdge hvertex.fresh ids "v" parentIdentifier "parent"
    · exact .refl hvertex.fresh
  have hall := habove.after_nothing
    (hvertex.then_nothing (hedge.then_nothing (writes_linkAll hedge.fresh hlinks)))
  exact ⟨_, hall, .cons (recorded_of_encode (liftDomain_ok hid) rfl) .nil⟩

end Groups

/-! ## Running a creation -/

inductive Creation
  | device (device : Node) (groups devices : Relations) (components : List Node)
  | component (device : String) (component : Node)
  | group (group : Node) (groups : Relations)

namespace Creation

def run : Creation → Session GraphError String
  | device node groups devices components => Devices.create node groups devices components
  | component owner node => Devices.createComponent owner node
  | group node groups => Groups.create node groups

def entities : Creation → List Entity
  | device node _ _ components => (node, .device) :: components.map (·, .component)
  | component _ node => [(node, .component)]
  | group node _ => [(node, .group)]

def runMade (operation : String) (make : EdgeIds → Except GraphError (String × Statement)) :
    Session GraphError String := do
  let (vertexId, s) ← Session.ofExcept (make (← Session.edgeIds))
  let _ ← Session.run operation s
  return vertexId

theorem made_of_runMade (operation : String)
    (make : EdgeIds → Except GraphError (String × Statement)) {e e' : Engine} {vertexId : String}
    (h : runMade operation make e = (.ok vertexId, e')) :
    ∃ s, make e.edgeIds = .ok (vertexId, s) ∧ e'.submitted = e.submitted ++ [s] := by
  obtain ⟨ids, e₁, hids, h⟩ := (Session.bind_eq_ok_iff _ _ _ _ _).mp h
  obtain ⟨rfl, rfl⟩ := (Session.edgeIds_eq_ok_iff _ _ _).mp hids
  obtain ⟨⟨id, s⟩, e₂, hresult, h⟩ := (Session.bind_eq_ok_iff _ _ _ _ _).mp h
  obtain ⟨hmade, rfl⟩ := (Session.ofExcept_eq_ok_iff _ _ _ _).mp hresult
  obtain ⟨rows, e₃, hrun, h⟩ := (Session.bind_eq_ok_iff _ _ _ _ _).mp h
  obtain ⟨rfl, rfl⟩ := (Session.pure_eq_ok_iff _ _ _ _).mp h
  have hsubmitted := Session.submitted_run operation s e
  rw [hrun] at hsubmitted
  exact ⟨s, hmade, hsubmitted⟩

def make : Creation → EdgeIds → Except GraphError (String × Statement)
  | device node groups devices components => fun ids =>
    Devices.createStatement ids node groups devices components
  | component owner node => fun ids => Devices.createComponentStatement ids owner node
  | group node groups => fun ids => Groups.createStatement ids node groups

theorem made_of_run {c : Creation} {e e' : Engine} {vertexId : String}
    (h : c.run e = (.ok vertexId, e')) :
    ∃ s, c.make e.edgeIds = .ok (vertexId, s) ∧ e'.submitted = e.submitted ++ [s] := by
  cases c with
  | device node groups devices components => exact made_of_runMade "devices.create" _ h
  | component owner node => exact made_of_runMade "devices.create_component" _ h
  | group node groups => exact made_of_runMade "groups.create" _ h

theorem writes_of_make {c : Creation} {ids : EdgeIds} {vertexId : String} {s : Statement}
    (h : c.make ids = .ok (vertexId, s)) : WritesEntities { access := .write } s c.entities := by
  cases c with
  | device => exact Devices.writes_createStatement h
  | component => exact Devices.writes_createComponentStatement h
  | group => exact Groups.writes_createStatement h

theorem records_of_run {c : Creation} {e e' : Engine} {vertexId : String}
    (h : c.run e = (.ok vertexId, e')) : ∃ s, e'.submitted = e.submitted ++ [s] ∧
      List.Forall₂ Recorded c.entities s.records := by
  obtain ⟨s, hmade, hs⟩ := made_of_run h
  obtain ⟨new, hwrites, hrecords⟩ := writes_of_make hmade
  refine ⟨s, hs, ?_⟩
  rw [records, hwrites.created_eq rfl]
  exact hrecords

end Creation

end DeviceGraph.Store
