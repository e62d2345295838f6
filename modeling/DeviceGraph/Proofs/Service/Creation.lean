import DeviceGraph.Proofs.Item.Reading
import DeviceGraph.Service.Groups

/-!
# Items that were created are read back

A service that creates an item submits, last of all, the statement of its node.
The record of every item in it gives the item back, alone and at its path, as far
as a record can hold its data.
-/

set_option autoImplicit false

namespace DeviceGraph.Service

theorem inStore_eq_ok_iff {α : Type} (action : Session GraphError α) (a : α) (e e' : Engine) :
    inStore action e = (.ok a, e') ↔ action e = (.ok a, e') :=
  Session.mapError_eq_ok_iff _ _ _ _ _

theorem Devices.templateId_of_checkItem {item : DeviceItem}
    (h : checkItem item = .ok ()) : item.templateId ≠ "" := by
  obtain ⟨_, _, h⟩ := (Checks.bind_eq_ok_iff _ _ _).mp h
  exact Checks.not_of_guard h

theorem Groups.templateId_of_checkItem {item : GroupItem}
    (h : checkItem item = .ok ()) : item.templateId ≠ "" := by
  obtain ⟨_, _, h⟩ := (Checks.bind_eq_ok_iff _ _ _).mp h
  exact Checks.not_of_guard h

/-- A device that was created had its template checked, and those of its components. -/
theorem Devices.creation_of_create {item : DeviceItem} {e e' : Engine} {id : String}
    (h : create item e = (.ok id, e')) :
    (∀ entity ∈ item :: item.components, entity.templateId ≠ "") ∧
      ∃ vertexId, (Store.Creation.device (item.toNode .device) item.groups item.devices
        (item.components.map (·.toNode .component))).run e = (.ok vertexId, e') := by
  obtain ⟨_, e₁, hfirst, h⟩ := (Session.bind_eq_ok_iff _ _ _ _ _).mp h
  obtain ⟨hitem, rfl⟩ := (Session.ofExcept_eq_ok_iff _ _ _ _).mp hfirst
  obtain ⟨_, e₂, hsecond, h⟩ := (Session.bind_eq_ok_iff _ _ _ _ _).mp h
  obtain ⟨hcomponents, rfl⟩ := (Session.ofExcept_eq_ok_iff _ _ _ _).mp hsecond
  obtain ⟨vertexId, e₃, hcreate, h⟩ := (Session.bind_eq_ok_iff _ _ _ _ _).mp h
  obtain ⟨_, rfl⟩ := (Session.pure_eq_ok_iff _ _ _ _).mp h
  refine ⟨fun entity hm => ?_, vertexId, (inStore_eq_ok_iff _ _ _ _).mp hcreate⟩
  rcases List.mem_cons.mp hm with rfl | hm
  · exact templateId_of_checkItem hitem
  · have hchecked := (Checks.forM_eq_ok_iff _ _).mp hcomponents entity hm
    obtain ⟨_, hentity, _⟩ := (Checks.bind_eq_ok_iff _ _ _).mp hchecked
    exact templateId_of_checkItem hentity

def Groups.lookAbove (item : GroupItem) (legacy : Bool) : Session ServiceError Unit :=
  if item.parentPath ≠ "" then
    requireLabels (Store.Groups.labels item.parentPath legacy) (.parentGroup item.parentPath)
  else pure ()

theorem Groups.create_eq (item : GroupItem) (legacy : Bool) : create item legacy =
    (Session.ofExcept (checkItem item) >>= fun _ => lookAbove item legacy >>= fun _ =>
      inStore (Store.Groups.create item.toNode item.groups) >>= fun _ => pure item.path) := by
  rw [create, lookAbove]
  split <;> rfl

theorem Groups.run_of_create {item : GroupItem} {legacy : Bool} {e e' : Engine} {path : String}
    (h : create item legacy e = (.ok path, e')) :
    checkItem item = .ok () ∧ ∃ e₁ vertexId, lookAbove item legacy e = (.ok (), e₁) ∧
      (Store.Creation.group item.toNode item.groups).run e₁ = (.ok vertexId, e') := by
  rw [create_eq] at h
  obtain ⟨_, e₀, hfirst, h⟩ := (Session.bind_eq_ok_iff _ _ _ _ _).mp h
  obtain ⟨hitem, rfl⟩ := (Session.ofExcept_eq_ok_iff _ _ _ _).mp hfirst
  obtain ⟨_, e₁, habove, h⟩ := (Session.bind_eq_ok_iff _ _ _ _ _).mp h
  obtain ⟨vertexId, e₂, hcreate, h⟩ := (Session.bind_eq_ok_iff _ _ _ _ _).mp h
  obtain ⟨_, rfl⟩ := (Session.pure_eq_ok_iff _ _ _ _).mp h
  exact ⟨hitem, e₁, vertexId, habove, (inStore_eq_ok_iff _ _ _ _).mp hcreate⟩

/-- A group that was created had its template checked. -/
theorem Groups.creation_of_create {item : GroupItem} {legacy : Bool} {e e' : Engine}
    {path : String} (h : create item legacy e = (.ok path, e')) :
    item.templateId ≠ "" ∧ ∃ e₁ vertexId,
      (Store.Creation.group item.toNode item.groups).run e₁ = (.ok vertexId, e') := by
  obtain ⟨hitem, e₁, vertexId, _, hrun⟩ := run_of_create h
  exact ⟨templateId_of_checkItem hitem, e₁, vertexId, hrun⟩

/-- Every item of a creation that succeeds is read back from its record. -/
theorem items_read_back :
    (∀ (item : DeviceItem) (e e' : Engine) (id : String),
      Devices.create item e = (.ok id, e') → ∃ s, e'.submitted = e.submitted ++ [s] ∧
        List.Forall₂ (fun entity record => DeviceItem.Plain entity →
          ∃ n, Assembly.node record = .ok n ∧ DeviceItem.ofNode n = entity.alone)
          (item :: item.components) s.records) ∧
    ∀ (item : GroupItem) (legacy : Bool) (e e' : Engine) (path : String),
      Groups.create item legacy e = (.ok path, e') → item.Plain →
        ∃ s record n, e'.submitted.getLast? = some s ∧ s.records = [record] ∧
          Assembly.node record = .ok n ∧ GroupItem.ofNode n = item.alone := by
  constructor
  · intro item e e' id h
    obtain ⟨htemplates, vertexId, hrun⟩ := Devices.creation_of_create h
    obtain ⟨s, hs, hrecords⟩ := Store.Creation.records_of_run hrun
    refine ⟨s, hs, ?_⟩
    generalize s.records = records at hrecords
    cases hrecords with
    | cons hdevice hrest =>
      rw [List.forall₂_map_left_iff, List.forall₂_map_left_iff] at hrest
      have hcomponents := (List.forall₂_and_left _ _).mpr
        ⟨fun entity hm => htemplates entity (List.mem_cons_of_mem item hm), hrest⟩
      refine .cons (fun hplain => ?_) (hcomponents.imp fun entity record hr hplain => ?_)
      · exact DeviceItem.ofNode_of_recorded (by decide) (htemplates item List.mem_cons_self) hplain
          hdevice
      · exact DeviceItem.ofNode_of_recorded (by decide) hr.1 hplain hr.2
  · intro item legacy e e' path h hplain
    obtain ⟨htemplate, e₁, vertexId, hrun⟩ := Groups.creation_of_create h
    obtain ⟨s, hs, hrecords⟩ := Store.Creation.records_of_run hrun
    obtain ⟨record, rest, hgroup, hrest, heq⟩ := List.forall₂_cons_left_iff.mp hrecords
    rw [List.forall₂_nil_left_iff.mp hrest] at heq
    obtain ⟨n, hn, hitem⟩ := GroupItem.ofNode_of_recorded htemplate hplain hgroup
    exact ⟨s, record, n, by rw [hs, List.getLast?_concat], heq, hn, hitem⟩

def busItem : DeviceItem where
  deviceId := "d"
  templateId := ":bus"
  description := some ""
  attributes := Dict.ofList [("seats", .ofNat 40), ("doors", .ofStrings ["front", "back"])]
  components := [{ deviceId := "c", templateId := "ecu", state := some "on" }]

def northItem : GroupItem where
  templateId := "region"
  parentPath := "/eu"
  name := "North"

def euEngine : Engine where
  replies := [.rows [.object [("chain", .string "region::group")]]]

theorem items_read_back_bus_north :
    (∃ e' s, Devices.create busItem {} = (.ok "d", e') ∧ e'.submitted = [s] ∧
      List.Forall₂ (fun entity record => ∃ n, Assembly.node record = .ok n ∧
        DeviceItem.ofNode n = entity.alone) (busItem :: busItem.components) s.records) ∧
    ∃ e' s record n, Groups.create northItem true euEngine = (.ok "/eu/north", e') ∧
      e'.submitted.getLast? = some s ∧ s.records = [record] ∧ Assembly.node record = .ok n ∧
      GroupItem.ofNode n = { northItem with groupPath := "/eu/north" } := by
  constructor
  · obtain ⟨e', hrun⟩ : ∃ e', Devices.create busItem {} = (.ok "d", e') := ⟨_, rfl⟩
    obtain ⟨s, hs, hall⟩ := items_read_back.1 busItem {} e' "d" hrun
    refine ⟨e', s, hrun, hs, ?_⟩
    have hplain : ∀ entity ∈ busItem :: busItem.components, entity.Plain := by
      intro entity hm
      simp only [busItem, List.mem_cons, List.not_mem_nil, or_false] at hm
      rcases hm with rfl | rfl <;> exact ⟨by decide, by decide⟩
    exact ((List.forall₂_and_left _ _).mpr ⟨hplain, hall⟩).imp fun entity record h => h.2 h.1
  · obtain ⟨e', hrun⟩ : ∃ e', Groups.create northItem true euEngine = (.ok "/eu/north", e') :=
      ⟨_, rfl⟩
    have hplain : northItem.Plain := ⟨by decide, by decide⟩
    obtain ⟨s, record, n, hs, hrecord, hn, hitem⟩ :=
      items_read_back.2 northItem true euEngine e' "/eu/north" hrun hplain
    exact ⟨e', s, record, n, hrun, hs, hrecord, hn, hitem.trans (by decide)⟩

end DeviceGraph.Service
