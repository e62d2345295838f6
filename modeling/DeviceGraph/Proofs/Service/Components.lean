import DeviceGraph.Proofs.Service.Creation
import DeviceGraph.Proofs.Store.Address
import Mathlib.Data.List.Nodup

/-!
# Components that are created together

A device is created with any list of components. Nothing makes their keys differ, and the
vertices of components with one key have one id; a call that changes or deletes the component
of that key then finds all of them.
-/

set_option autoImplicit false

namespace DeviceGraph

/-! ## Which new vertices a statement finds -/

namespace Statement

def finds (t : Statement) (vertex : List Identifier × Json) : Bool :=
  t.sought.any fun v => v.1 ∈ vertex.1 ∧ v.2 = vertex.2

end Statement

namespace Store
open Statement

variable {t : Statement} {address other : Address} {vertexId otherId : String}
variable {addresses : List Address} {vertices : List (List Identifier × Json)}

/-- Two addresses have one vertex id exactly when they are one. -/
theorem id_eq_iff (h : Identity.encode address.1 address.2 = .ok vertexId)
    (g : Identity.encode other.1 other.2 = .ok otherId) : vertexId = otherId ↔ address = other := by
  constructor
  · rintro rfl
    exact Except.ok.inj ((Identity.decode_of_encode h).symm.trans (Identity.decode_of_encode g))
  · rintro rfl
    exact Except.ok.inj (h.symm.trans g)

/-- A statement that seeks the id of an address finds the vertex of that address, and no
other. -/
theorem finds_iff (ht : t.Seeks [vertexId])
    (hid : Identity.encode address.1 address.2 = .ok vertexId) {vertex : List Identifier × Json}
    (hv : Bears other vertex) : t.finds vertex = true ↔ other = address := by
  obtain ⟨⟨label, value⟩, rest, hnames, hrest, hsought⟩ := List.forall₂_cons_left_iff.mp ht
  obtain ⟨category, keys, hd, hlabel, hvalue⟩ := hnames
  obtain ⟨otherId, hother, hname, hmem⟩ := hv
  rw [Identity.decode_of_encode hid] at hd
  cases hd
  dsimp only at hlabel hvalue
  rw [Statement.finds, hsought, List.forall₂_nil_left_iff.mp hrest, List.any_cons, List.any_nil,
    Bool.or_false, decide_eq_true_iff, hlabel, hvalue, hname, Json.string.injEq,
    id_eq_iff hid hother]
  constructor
  · exact fun h => h.2.symm
  · rintro rfl
    exact ⟨hmem, rfl⟩

/-- It finds as many new vertices as there are entities of that address among them. -/
theorem countP_finds (ht : t.Seeks [vertexId])
    (hid : Identity.encode address.1 address.2 = .ok vertexId)
    (h : List.Forall₂ Bears addresses vertices) :
    vertices.countP t.finds = addresses.count address := by
  induction h with
  | nil => rfl
  | cons hv _ ih =>
    rw [List.countP_cons, List.count_cons, ih]
    simp [finds_iff ht hid hv]

theorem mem_ids_iff (hid : Identity.encode address.1 address.2 = .ok vertexId)
    (h : List.Forall₂ Bears addresses vertices) :
    .string vertexId ∈ vertices.map (·.2) ↔ address ∈ addresses := by
  induction h with
  | nil => simp
  | cons hv _ ih =>
    obtain ⟨otherId, hother, hname, _⟩ := hv
    rw [List.map_cons, List.mem_cons, List.mem_cons, ih, hname, Json.string.injEq,
      id_eq_iff hid hother]

/-- Vertices have different ids exactly when they belong to different addresses. -/
theorem nodup_ids_iff (h : List.Forall₂ Bears addresses vertices) :
    (vertices.map (·.2)).Nodup ↔ addresses.Nodup := by
  induction h with
  | nil => simp
  | cons hv hrest ih =>
    obtain ⟨vertexId, hid, hname, _⟩ := hv
    rw [List.map_cons, List.nodup_cons, List.nodup_cons, ih, hname, mem_ids_iff hid hrest]

/-! ## Calls about one entity -/

/-- What a call about one entity submits seeks the vertex id of that entity. -/
theorem EntityCall.submits {α : Type} (c : EntityCall α) (h : c.vertexIds = [vertexId]) :
    c.run.Submits fun t => t.Seeks [vertexId] :=
  c.planned.submits fun _ _ hp t ht => h ▸ c.seeks hp t ht

def SeeksOnly (address : Address) (t : Statement) : Prop :=
  ∃ vertexId, Identity.encode address.1 address.2 = .ok vertexId ∧ t.Seeks [vertexId]

theorem submits_ofDomain {α : Type} (address : Address) (call : String → EntityCall α)
    (hcall : ∀ vertexId, (call vertexId).vertexIds = [vertexId]) :
    (Session.ofDomain (Identity.encode address.1 address.2) >>= fun vertexId =>
      (call vertexId).run).Submits (SeeksOnly address) := by
  cases hid : Identity.encode address.1 address.2 with
  | error err => exact Session.submits_ofExcept (.error _) _
  | ok vertexId =>
    exact ((call vertexId).submits (hcall vertexId)).imp fun _ hseeks => ⟨vertexId, hid, hseeks⟩

end Store

namespace Service
open Store

/-! ## Components by their keys -/

inductive ComponentCall
  | update (device : String) (component : DeviceItem) (legacy : Bool)
  | delete (device component : String)

namespace ComponentCall

def run : ComponentCall → Session ServiceError Unit
  | update device component legacy => Devices.updateComponent device component legacy
  | delete device component => Devices.deleteComponent device component

def device : ComponentCall → String
  | update device .. | delete device _ => device

def component : ComponentCall → String
  | update _ component _ => component.deviceId
  | delete _ component => component

/-- Whatever the call asks before it writes, it asks about its component. -/
theorem submits (c : ComponentCall) :
    c.run.Submits (SeeksOnly (.component, [c.device, c.component])) := by
  cases c with
  | update device component legacy =>
    have hlabels := submits_ofDomain (.component, [device, component.deviceId])
      (.labels · legacy) fun _ => rfl
    have hupdate := submits_ofDomain (.component, [device, component.deviceId])
      (.update · (component.toNode .component).attributes) fun _ => rfl
    refine (Session.submits_ofExcept _ _).bind fun _ => .bind ?_ fun _ => hupdate.mapError _
    refine (hlabels.mapError _).bind fun found => ?_
    cases found with
    | none => exact Session.submits_ofExcept (.error _) _
    | some labels => exact Session.submits_ofExcept (.ok ()) _
  | delete device component =>
    have hdelete := submits_ofDomain (.component, [device, component]) .delete fun _ => rfl
    exact (Session.submits_ofExcept _ _).bind fun _ => hdelete.mapError _

end ComponentCall

/-! ## Devices with their components -/

def createdWith (item : DeviceItem) : List Address :=
  (.device, [item.deviceId]) ::
    item.components.map fun component => (.component, [item.deviceId, component.deviceId])

def creationOf (item : DeviceItem) : Creation :=
  .device (item.toNode .device) item.groups item.devices
    (item.components.map (·.toNode .component))

theorem addresses_creationOf (item : DeviceItem) :
    (creationOf item).addresses = createdWith item := by
  simp [creationOf, Creation.addresses, createdWith, Creation.entity, Creation.keys,
    Creation.components, DeviceItem.toNode, Node.ofTemplate, Function.comp_def]

theorem submits_create (item : DeviceItem) :
    (Devices.create item).Submits fun s => List.Forall₂ Bears (createdWith item) s.made := by
  have hcreate := (Store.DeviceCall.create (item.toNode .device) item.groups item.devices
    (item.components.map (·.toNode .component))).planned.submits fun ids p hp s hs => by
      obtain ⟨⟨vertexId, t⟩, hmake, hp⟩ := (Checks.bind_eq_ok_iff _ _ _).mp hp
      cases hp
      cases hs
      obtain ⟨_, _, _, hlayout⟩ := Creation.layout_of_make (c := creationOf item) hmake
      exact addresses_creationOf item ▸ Creation.made_of_layout hlayout
  refine (Session.submits_ofExcept _ _).bind fun _ => ?_
  refine (Session.submits_ofExcept _ _).bind fun _ => ?_
  exact (hcreate.mapError _).bind fun _ => Session.submits_ofExcept (.ok _) _

theorem count_createdWith (item : DeviceItem) (device component : String) :
    (createdWith item).count (.component, [device, component]) =
      if device = item.deviceId then (item.components.map (·.deviceId)).count component else 0 := by
  rw [createdWith, List.count_cons_of_ne (by simp), List.count_eq_countP, List.count_eq_countP,
    List.countP_map, List.countP_map]
  by_cases h : device = item.deviceId
  · rw [if_pos h, h]
    exact List.countP_congr fun other _ => by simp
  · rw [if_neg h, List.countP_eq_zero]
    simp [Ne.symm h]

theorem nodup_createdWith_iff (item : DeviceItem) :
    (createdWith item).Nodup ↔ (item.components.map (·.deviceId)).Nodup := by
  have hinj : Function.Injective fun key => ((.component, [item.deviceId, key]) : Address) :=
    fun _ _ h => by simpa using h
  rw [createdWith, List.nodup_cons, and_iff_right (by simp), ← List.nodup_map_iff hinj,
    List.map_map]
  rfl

/-- Nothing makes the keys of the components differ. The vertices that a device is created with
have different ids exactly when the keys do, and a later call on a component finds as many of
them as there are components of its key. -/
theorem components_found (item : DeviceItem) (e : Engine) :
    ∃ new, (Devices.create item e).2.submitted = e.submitted ++ new ∧ ∀ s ∈ new,
      ((s.made.map (·.2)).Nodup ↔ (item.components.map (·.deviceId)).Nodup) ∧
      ∀ (c : ComponentCall) (later : Engine), ∃ calls,
        (c.run later).2.submitted = later.submitted ++ calls ∧ ∀ t ∈ calls,
          s.made.countP t.finds = if c.device = item.deviceId
            then (item.components.map (·.deviceId)).count c.component else 0 := by
  obtain ⟨new, hnew, hmade⟩ := submits_create item e
  refine ⟨new, hnew, fun s hs => ⟨?_, fun c later => ?_⟩⟩
  · rw [nodup_ids_iff (hmade s hs), nodup_createdWith_iff]
  · obtain ⟨calls, hcalls, hseeks⟩ := c.submits later
    refine ⟨calls, hcalls, fun t ht => ?_⟩
    obtain ⟨vertexId, hid, hsought⟩ := hseeks t ht
    rw [countP_finds hsought hid (hmade s hs), count_createdWith]

theorem components_found_bus : ∃ s, (Devices.create busItem {}).2.submitted = [s] ∧
    (s.made.map (·.2)).Nodup ∧ ∃ t, (Devices.deleteComponent "d" "c" {}).2.submitted = [t] ∧
      s.made.countP t.finds = 1 := by
  obtain ⟨s, hs⟩ : ∃ s, (Devices.create busItem {}).2.submitted = [s] := ⟨_, rfl⟩
  obtain ⟨t, ht⟩ : ∃ t, (Devices.deleteComponent "d" "c" {}).2.submitted = [t] := ⟨_, rfl⟩
  obtain ⟨new, hnew, hfound⟩ := components_found busItem {}
  obtain rfl : [s] = new := hs.symm.trans hnew
  obtain ⟨hdistinct, hcalls⟩ := hfound s List.mem_cons_self
  obtain ⟨calls, hsubmitted, hcount⟩ := hcalls (.delete "d" "c") {}
  obtain rfl : [t] = calls := ht.symm.trans hsubmitted
  exact ⟨s, hs, hdistinct.mpr (by decide), t, ht, hcount t List.mem_cons_self⟩

def twinItem : DeviceItem where
  deviceId := "d"
  templateId := "bus"
  components :=
    [{ deviceId := "c", templateId := "ecu" }, { deviceId := "c", templateId := "lamp" }]

theorem twins_found_together : ∃ e' s t, Devices.create twinItem {} = (.ok "d", e') ∧
    e'.submitted = [s] ∧ s.made.map (·.2) =
      [.string "device___d", .string "device___d___c", .string "device___d___c"] ∧
    (Devices.deleteComponent "d" "c" e').2.submitted = [s, t] ∧ s.made.countP t.finds = 2 :=
  ⟨_, _, _, rfl, rfl, by decide, rfl, by decide⟩

end Service

end DeviceGraph
