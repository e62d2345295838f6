import DeviceGraph.Proofs.Store.Creation
import DeviceGraph.Proofs.TypeChain

/-!
# Created entities are read

An entity whose chain is cut into two types or more is read back under its own
natural key, with the types of its chain. Its category is the one that it was
created with, unless the chain names another one: a chain that names several
stands for a group before a component, and for a component before a device.
-/

set_option autoImplicit false

namespace DeviceGraph.Store

structure ReadAs (entity : Entity) (n : Node) : Prop where
  id : n.id = entity.1.id
  types : n.types = TypeChain.split entity.1.typeChain
  category : n.category = (Category.ofTypes? n.types).getD entity.2

theorem node_of_recorded {entity : Entity} {record : Properties} (h : Recorded entity record)
    (ht : 2 ≤ (TypeChain.split entity.1.typeChain).length) :
    ∃ n, Assembly.node record = .ok n ∧ ReadAs entity n := by
  obtain ⟨vertexId, keys, hd, hk, rfl⟩ := h
  refine ⟨_, by
    rw [Assembly.node_vertexRecord hd entity.1 (not_isReserved_keyPropertyOf entity.2),
      if_neg (by omega)], ?_⟩
  exact ⟨hk, rfl, rfl⟩

theorem ofTypes?_getD_of_only {types : List String} {category : Category}
    (h : ∀ other : Category, other.label ∈ types → other = category) :
    (Category.ofTypes? types).getD category = category := by
  cases ho : Category.ofTypes? types with
  | none => rfl
  | some other => exact h other (by simpa using List.find?_some ho)

/-- Whatever a creation writes is read back, if its chain holds two types or more. The
category stays the same where the chain names no other. -/
theorem entities_read_back {c : Creation} {e e' : Engine} {vertexId : String}
    (h : c.run e = (.ok vertexId, e')) : ∃ s, e'.submitted = e.submitted ++ [s] ∧
      List.Forall₂ (fun entity record =>
        2 ≤ (TypeChain.split entity.1.typeChain).length →
          ∃ n, Assembly.node record = .ok n ∧ ReadAs entity n ∧
            ((∀ category : Category, category.label ∈ n.types → category = entity.2) →
              n.category = entity.2)) c.entities s.records := by
  obtain ⟨s, hs, hrecords⟩ := Creation.records_of_run h
  refine ⟨s, hs, hrecords.imp fun entity record hrecord ht => ?_⟩
  obtain ⟨n, hn, hread⟩ := node_of_recorded hrecord ht
  refine ⟨n, hn, hread, fun honly => ?_⟩
  rw [hread.category, ofTypes?_getD_of_only honly]

def typedCreation (types : List String) : Creation :=
  .device { id := "d", types, category := .device } .empty .empty
    [{ id := "c", types := ["ecu", "component"], category := .component }]

theorem entities_read_back_bus : ∃ e' s,
    (typedCreation ["bus", "device"]).run {} = (.ok "device___d", e') ∧ e'.submitted = [s] ∧
      List.Forall₂ (fun entity record => ∃ n, Assembly.node record = .ok n ∧ n.id = entity.1.id ∧
        n.category = entity.2) (typedCreation ["bus", "device"]).entities s.records := by
  obtain ⟨e', hrun⟩ : ∃ e', (typedCreation ["bus", "device"]).run {} = (.ok "device___d", e') :=
    ⟨_, rfl⟩
  obtain ⟨s, hs, hall⟩ := entities_read_back hrun
  have hbus : TypeChain.split "bus::device" = ["bus", "device"] := by rfl
  have hecu : TypeChain.split "ecu::component" = ["ecu", "component"] := by rfl
  refine ⟨e', s, hrun, hs, ?_⟩
  generalize s.records = records at hall
  cases hall with
  | cons hdevice hrest =>
    cases hrest with
    | cons hcomponent hrest =>
      cases hrest
      refine .cons ?_ (.cons ?_ .nil)
      · obtain ⟨n, hn, hread, hcategory⟩ := hdevice (by decide +kernel)
        refine ⟨n, hn, hread.id, hcategory fun category hm => ?_⟩
        rw [hread.types.trans hbus] at hm
        cases category <;> simp [Category.label] at hm ⊢
      · obtain ⟨n, hn, hread, hcategory⟩ := hcomponent (by decide +kernel)
        refine ⟨n, hn, hread.id, hcategory fun category hm => ?_⟩
        rw [hread.types.trans hecu] at hm
        cases category <;> simp [Category.label] at hm ⊢

/-- A template with the name of a category makes a device a group, and one type alone makes a
record that is not read at all. -/
theorem entities_misread :
    (∃ e' s device rest n, (typedCreation ["group", "device"]).run {} = (.ok "device___d", e') ∧
      e'.submitted = [s] ∧ s.records = device :: rest ∧ Assembly.node device = .ok n ∧
      n.category = .group) ∧
    ∃ e' s device rest, (typedCreation ["vehicle"]).run {} = (.ok "device___d", e') ∧
      e'.submitted = [s] ∧ s.records = device :: rest ∧
      Assembly.node device = .error (.domain (.invalidLabels "device___d" ["vehicle"])) :=
  ⟨⟨_, _, _, _, _, rfl, rfl, rfl, rfl, rfl⟩, ⟨_, _, _, _, rfl, rfl, rfl, rfl⟩⟩

end DeviceGraph.Store
