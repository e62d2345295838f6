import DeviceGraph.Proofs.Store.Labels
import DeviceGraph.Proofs.Store.Layout
import DeviceGraph.Proofs.Store.Seeking

/-!
# How created entities are found again

A vertex that is created has the id that later calls look for when they are about the same
natural keys, and among its labels the one under which they look for it. Both are told by
the clauses of statements, which are the lines of the submitted texts.
-/

set_option autoImplicit false

namespace DeviceGraph

namespace Statement

def makes? (s : Statement) : Clause → Option (List Identifier × Json)
  | .createVertex _ labels idSlot _ => some (labels, s.value idSlot)
  | _ => none

def made (s : Statement) : List (List Identifier × Json) := s.clauses.filterMap s.makes?

end Statement

namespace Store
open Statement

variable {s : Statement}

/-- A vertex that is made with the id of an address, and with the label of its category. -/
def Bears (address : Address) (vertex : List Identifier × Json) : Prop :=
  ∃ vertexId, Identity.encode address.1 address.2 = .ok vertexId ∧
    vertex.2 = .string vertexId ∧ address.1.identifier ∈ vertex.1

/-- The label of the category is among the labels of every new vertex. -/
theorem mem_of_vertexLabels {node : Node} {category : Category} {vertexId : String}
    {labels : List Identifier} (h : vertexLabels node category vertexId = .ok labels) :
    category.identifier ∈ labels := by
  rw [vertexLabels] at h
  split at h
  · cases h
  · have hnames := (Identifier.mapM_of_eq_ok_iff _ _).mp h
    have hmem : category.label ∈ labels.map (·.name) := by
      rw [hnames]
      simp
    obtain ⟨label, hm, hname⟩ := List.mem_map.mp hmem
    have hlabel : label = category.identifier := by
      cases label
      cases hname
      rfl
    exact hlabel ▸ hm

section Blocks

variable {cs : List Clause}

theorem made_of_creates {var vertexId keyProperty : String} {node : Node} {category : Category}
    {keys : List String} (h : s.Creates var vertexId keyProperty node category cs)
    (hid : Identity.encode category keys = .ok vertexId) :
    ∃ vertex, cs.filterMap s.makes? = [vertex] ∧ Bears (category, keys) vertex := by
  obtain ⟨labels, idSlot, chainSlot, propsSlot, hlabels, rfl, hslot, _⟩ := h
  exact ⟨(labels, s.value idSlot), rfl, vertexId, hid, value_of_param? hslot,
    mem_of_vertexLabels hlabels⟩

theorem made_of_joins {origin relation head : String} (h : s.Joins origin relation head cs) :
    cs.filterMap s.makes? = [] := by
  obtain ⟨_, _, _, rfl, _⟩ := h
  rfl

theorem made_of_finds {var vertexId : String} (h : s.Finds var vertexId cs) :
    cs.filterMap s.makes? = [] := by
  obtain ⟨_, _, _, _, rfl, _⟩ := h
  rfl

theorem made_of_draws {var : String} {link : Declared} (h : s.Draws var link cs) :
    cs.filterMap s.makes? = [] := by
  obtain ⟨_, _, _, _, _, _, _, _, _, rfl, _⟩ := h
  rfl

theorem made_of_mounts {device : String} {component : Node}
    (h : Devices.Mounts device s component cs) :
    ∃ vertex, cs.filterMap s.makes? = [vertex] ∧
      Bears (.component, [device, component.id]) vertex := by
  obtain ⟨var, componentId, made, drawn, hid, hmade, hdrawn, rfl⟩ := h
  rw [List.filterMap_append, made_of_joins hdrawn, List.append_nil]
  exact made_of_creates hmade hid

theorem made_of_placed {c : Creation} {vertexId : String} (h : c.Placed s vertexId cs)
    (hid : Identity.encode c.entity.2 c.keys = .ok vertexId) :
    ∃ vertex, cs.filterMap s.makes? = [vertex] ∧ Bears (c.entity.2, c.keys) vertex := by
  revert h
  unfold Creation.Placed
  cases c.above? with
  | none => exact fun h => made_of_creates h hid
  | some above =>
    rintro ⟨aboveId, found, made, drawn, _, hfound, hmade, hdrawn, rfl⟩
    rw [List.filterMap_append, List.filterMap_append, made_of_finds hfound, made_of_joins hdrawn,
      List.append_nil, List.nil_append]
    exact made_of_creates hmade hid

theorem made_of_parts {device : String} {components : List Node} {parts : List (List Clause)}
    (h : List.Forall₂ (Devices.Mounts device s) components parts) :
    List.Forall₂ Bears (components.map fun component => (.component, [device, component.id]))
      (parts.flatten.filterMap s.makes?) := by
  induction h with
  | nil => exact .nil
  | cons hpart _ ih =>
    obtain ⟨vertex, hvertex, hbears⟩ := made_of_mounts hpart
    rw [List.flatten_cons, List.filterMap_append, hvertex]
    exact .cons hbears ih

theorem made_of_links {var : String} {declared : List Declared} {links : List (List Clause)}
    (h : List.Forall₂ (s.Draws var) declared links) : links.flatten.filterMap s.makes? = [] := by
  induction h with
  | nil => rfl
  | cons hlink _ ih => rw [List.flatten_cons, List.filterMap_append, made_of_draws hlink, ih]; rfl

end Blocks

namespace Creation

def addresses (c : Creation) : List Address :=
  (c.entity.2, c.keys) ::
    c.components.map fun component => (.component, [c.entity.1.id, component.id])

theorem made_of_layout {c : Creation} {vertexId : String} {first : List Clause}
    {parts links : List (List Clause)} (h : Layout c vertexId s first parts links) :
    List.Forall₂ Bears c.addresses s.made := by
  obtain ⟨vertex, hvertex, hbears⟩ := made_of_placed h.first h.encoded
  rw [Statement.made, h.clauses, List.filterMap_append, List.filterMap_append, hvertex,
    made_of_links h.links, List.append_nil]
  exact .cons hbears (made_of_parts h.parts)

end Creation

/-- A vertex id that belongs to an address, and labels under which calls look for it. -/
structure Reached (address : Address) (vertexId : String) (labels : List Identifier) : Prop where
  encoded : Identity.encode address.1 address.2 = .ok vertexId
  /-- Its labels can be read. -/
  read : ∀ legacy later, ∃ t, (Store.labels vertexId legacy later).2.submitted =
    later.submitted ++ [t]
  sought : ∀ {α : Type} (call : Call α) (later : Engine), address ∈ call.addresses →
    ∃ new, (call.run later).2.submitted = later.submitted ++ new ∧ ∀ t ∈ new,
      (∃ v ∈ t.sought, v.2 = .string vertexId) ∧
        ∀ v ∈ t.sought, v.2 = .string vertexId → v.1 ∈ labels

theorem reached_of_encode {address : Address} {vertexId : String} {labels : List Identifier}
    (h : Identity.encode address.1 address.2 = .ok vertexId)
    (hlabel : address.1.identifier ∈ labels) : Reached address vertexId labels where
  encoded := h
  read := by
    intro legacy later
    obtain ⟨t, ht⟩ := exists_labelsStatement (Identity.decode_of_encode h)
    exact ⟨t, (EntityCall.labels vertexId legacy).planned.submitted (plan_labels ht legacy _)⟩
  sought := by
    intro α call later haddress
    obtain ⟨new, hnew, hlocates⟩ := call.locates_submitted haddress later
    refine ⟨new, hnew, fun t ht => ?_⟩
    obtain ⟨hfound, honly⟩ := (hlocates t ht).sought h
    exact ⟨hfound, fun v hv hname => honly v hv hname ▸ hlabel⟩

/-- A successful creation makes a vertex for each of its entities, which calls can reach. -/
theorem Creation.reached {c : Creation} {e e' : Engine} {vertexId : String}
    (h : c.run e = (.ok vertexId, e')) :
    ∃ s, e'.submitted = e.submitted ++ [s] ∧ List.Forall₂ (fun address vertex =>
      ∃ vertexId, vertex.2 = .string vertexId ∧ Reached address vertexId vertex.1)
        c.addresses s.made := by
  obtain ⟨s, hmade, hsubmitted⟩ := made_of_run h
  obtain ⟨first, parts, links, hlayout⟩ := layout_of_make hmade
  refine ⟨s, hsubmitted, (made_of_layout hlayout).imp fun address vertex hbears => ?_⟩
  obtain ⟨vertexId, hid, hvalue, hlabel⟩ := hbears
  exact ⟨vertexId, hvalue, reached_of_encode hid hlabel⟩

/-- A component whose device has a key that begins with an underscore is read by its keys. -/
theorem Creation.reached_underscored : ∃ s e' labels,
    (Creation.component "_d" (.ofTemplate "c" ":ecu" .component)).run {} =
      (.ok "device____d___c", e') ∧
    e'.submitted = [s] ∧ s.made = [(labels, .string "device____d___c")] ∧
    Reached (.component, ["_d", "c"]) "device____d___c" labels ∧
    (.component, ["_d", "c"]) ∈ (Call.device (.componentLabels "_d" "c" false)).addresses := by
  obtain ⟨e', hrun⟩ : ∃ e', (Creation.component "_d" (.ofTemplate "c" ":ecu" .component)).run {} =
    (.ok "device____d___c", e') := ⟨_, rfl⟩
  obtain ⟨s, hs, hall⟩ := Creation.reached hrun
  obtain ⟨⟨labels, value⟩, rest, ⟨vertexId, hvalue, hreached⟩, hrest, hmade⟩ :=
    List.forall₂_cons_left_iff.mp hall
  cases List.forall₂_nil_left_iff.mp hrest
  have hid : Identity.encode .component ["_d", "c"] = .ok "device____d___c" := by rfl
  cases Except.ok.inj (hid.symm.trans hreached.encoded)
  cases hvalue
  exact ⟨s, e', labels, hrun, hs, hmade, hreached, List.mem_singleton_self _⟩

end Store

end DeviceGraph
