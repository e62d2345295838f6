import DeviceGraph.Proofs.Graph.Creation
import DeviceGraph.Proofs.Graph.Run
import DeviceGraph.Proofs.Store.Call

/-!
# Stored keys

Every vertex stores the last key of its id as a property of its own. A creation writes
the key over any attribute of that name. An update writes what it is given, so it keeps
the stored key exactly if it names none, or the very key, for the vertices that it finds.
-/

set_option autoImplicit false

namespace DeviceGraph

def Properties.Keyed (properties : Properties) : Prop :=
  ∃ id category keys, properties.get? idProperty = some (.string id) ∧
    Identity.decode id = .ok (category, keys) ∧
    properties.get? (Store.keyPropertyOf category) = some (.string (keys.getLastD ""))

theorem Properties.keyed_iff {properties : Properties} {id : String} {category : Category}
    {keys : List String} (hid : properties.get? idProperty = some (.string id))
    (hd : Identity.decode id = .ok (category, keys)) : properties.Keyed ↔
      properties.get? (Store.keyPropertyOf category) = some (.string (keys.getLastD "")) := by
  constructor
  · rintro ⟨id', category', keys', hid', hd', hkey⟩
    rw [hid] at hid'
    cases hid'
    rw [hd] at hd'
    cases hd'
    exact hkey
  · exact fun hkey => ⟨id, category, keys, hid, hd, hkey⟩

def Graph.Keyed (g : Graph) : Prop := ∀ v ∈ g.vertices, v.properties.Keyed

namespace Store

theorem keyed_of_recorded {entity : Entity} {properties : Properties}
    (h : Recorded entity properties) : properties.Keyed := by
  obtain ⟨id, keys, hd, hkey, rfl⟩ := h
  have hreserved := not_isReserved_keyPropertyOf entity.2
  have hne : keyPropertyOf entity.2 ≠ idProperty ∧ keyPropertyOf entity.2 ≠ labelProperty := by
    simpa [isReserved] using hreserved
  refine ⟨id, entity.2, keys, ?_, hd, ?_⟩
  · rw [Statement.get?_vertexRecord _ _ hreserved, if_pos rfl]
  · rw [Statement.get?_vertexRecord _ _ hreserved, if_neg hne.1, if_neg hne.2,
      Statement.get?_creationProperties, if_pos rfl, hkey]

/-- An update keeps a stored key if it does not name it, or names it as it is. -/
theorem keyed_merge_iff {properties : Properties} {id : String} {category : Category}
    {keys : List String} (hid : properties.get? idProperty = some (.string id))
    (hd : Identity.decode id = .ok (category, keys)) (h : properties.Keyed)
    (attributes : Dict Json) :
    (properties.merge (.ofDict (writable attributes))).Keyed ↔
      ∀ value, attributes.get? (keyPropertyOf category) = some value →
        value = .string (keys.getLastD "") := by
  have hreserved : isReserved idProperty = true := by decide
  have hkeptId : (properties.merge (.ofDict (writable attributes))).get? idProperty =
      some (.string id) := by rw [get?_merge_writable, if_pos hreserved, hid]
  have hstored := (Properties.keyed_iff hid hd).mp h
  rw [Properties.keyed_iff hkeptId hd, get?_merge_writable,
    if_neg (by simp [not_isReserved_keyPropertyOf])]
  cases attributes.get? (keyPropertyOf category) with
  | none => simpa using hstored
  | some value => cases value <;> simp [Json.isNull]

/-! ## Operations -/

inductive Update
  | device (device : Node)
  | component (device component : String) (attributes : Dict Json)
  | group (group : Node)

namespace Update

def run : Update → Session GraphError Unit
  | device node => Devices.update node
  | component owner key attributes => Devices.updateComponent owner key attributes
  | group node => Groups.update node

def category : Update → Category
  | device _ => .device
  | component .. => .component
  | group _ => .group

def keys : Update → List String
  | device node => [node.id]
  | component owner key _ => [owner, key]
  | group node => [node.id]

def attributes : Update → Dict Json
  | device node => node.attributes
  | component _ _ attributes => attributes
  | group node => node.attributes

def plan (u : Update) : Planning Unit := fun ids => do
  (EntityCall.update (← liftDomain (Identity.encode u.category u.keys)) u.attributes).plan ids

theorem planned (u : Update) : Planned u.run u.plan := by
  cases u with
  | device node => exact (DeviceCall.update node).planned
  | component owner key attributes =>
    exact (DeviceCall.updateComponent owner key attributes).planned
  | group node => exact (GroupCall.update node).planned

/-- An update that succeeds submits the statement that it needs, if any. -/
theorem statement_of_run {u : Update} {e : Engine} {a : Unit} (h : (u.run e).1 = .ok a) :
    ∃ id statement, Identity.encode u.category u.keys = .ok id ∧
      updateStatement id u.attributes = .ok statement ∧
      (u.run e).2.submitted = e.submitted ++ statement.toList := by
  obtain ⟨p, hp⟩ := u.planned.exists_plan h
  have hsubmitted := u.planned.submitted hp
  obtain ⟨id, hid, hp⟩ := (Checks.bind_eq_ok_iff _ _ _).mp hp
  obtain ⟨statement, hstatement, hp⟩ := (Checks.bind_eq_ok_iff _ _ _).mp hp
  cases hp
  exact ⟨id, statement, liftDomain_ok hid, hstatement, hsubmitted⟩

/-- The statement of an update changes every vertex with the id of its keys. -/
theorem apply_statement {u : Update} {id : String} {statement : Option Statement}
    (hid : Identity.encode u.category u.keys = .ok id)
    (h : updateStatement id u.attributes = .ok statement) (g : Graph) :
    statement.toList.foldl (fun g s => s.apply g) g =
      g.modify (g.find u.category.label (.string id))
        (·.merge (.ofDict (writable u.attributes))) := by
  obtain ⟨category, keys, hd, happly⟩ := apply_of_updateStatement h
  rw [Identity.decode_of_encode hid] at hd
  cases hd
  rw [← happly]
  cases statement <;> rfl

theorem graph_of_run {u : Update} {w : World} {a : Unit} (h : (u.run w.engine).1 = .ok a) :
    ∃ id, Identity.encode u.category u.keys = .ok id ∧ (w.after u.run).graph =
      w.graph.modify (w.graph.find u.category.label (.string id))
        (·.merge (.ofDict (writable u.attributes))) := by
  obtain ⟨id, statement, hid, hstatement, hsubmitted⟩ := statement_of_run h
  exact ⟨id, hid, (World.graph_after hsubmitted).trans (apply_statement hid hstatement w.graph)⟩

/-- An update names no key of its own, or the key itself, unless it finds nothing. -/
def KeepsKey (u : Update) (g : Graph) : Prop :=
  ∀ id, Identity.encode u.category u.keys = .ok id →
    (∃ v ∈ g.vertices, v.isAt u.category.label (.string id) = true) →
    ∀ value, u.attributes.get? (keyPropertyOf u.category) = some value →
      value = .string (u.keys.getLastD "")

theorem keyed_of_run_iff {u : Update} {w : World} {a : Unit} (h : (u.run w.engine).1 = .ok a)
    (hw : w.graph.Keyed) : (w.after u.run).graph.Keyed ↔ u.KeepsKey w.graph := by
  obtain ⟨id, hid, hgraph⟩ := graph_of_run h
  have hd := Identity.decode_of_encode hid
  rw [Graph.Keyed, hgraph, Graph.modify_find, List.forall_mem_map]
  constructor
  · rintro hkeyed id' hid' ⟨v, hv, hat⟩
    rw [hid] at hid'
    cases hid'
    have hmerged := hkeyed v hv
    rw [if_pos hat] at hmerged
    exact (keyed_merge_iff (v.id_of_isAt hat) hd (hw v hv) u.attributes).mp hmerged
  · intro hkeeps v hv
    by_cases hat : v.isAt u.category.label (.string id) = true
    · rw [if_pos hat]
      exact (keyed_merge_iff (v.id_of_isAt hat) hd (hw v hv) u.attributes).mpr
        (hkeeps id hid ⟨v, hv, hat⟩)
    · rw [if_neg hat]
      exact hw v hv

end Update

inductive Change
  | create (c : Creation)
  | update (u : Update)

namespace Change

def run : Change → Session GraphError Unit
  | create c => do
    let _ ← c.run
  | update u => u.run

def KeepsKey : Change → Graph → Prop
  | create _, _ => True
  | update u, g => u.KeepsKey g

theorem keyed_of_create {c : Creation} {w : World} {a : Unit}
    (h : ((create c).run w.engine).1 = .ok a) (hw : w.graph.Keyed) :
    (w.after (create c).run).graph.Keyed := by
  have hrun : (create c).run w.engine = (.ok a, ((create c).run w.engine).2) := Prod.ext h rfl
  obtain ⟨vertexId, e₁, hcreate, hpure⟩ := (Session.bind_eq_ok_iff _ _ _ _ _).mp hrun
  obtain ⟨_, rfl⟩ := (Session.pure_eq_ok_iff _ _ _ _).mp hpure
  obtain ⟨s, hmade, hsubmitted⟩ := Creation.made_of_run hcreate
  obtain ⟨new, hnew, hrecords⟩ := Creation.adds_of_make hmade w.graph
  rw [Graph.Keyed, World.graph_after hsubmitted, List.foldl_cons, List.foldl_nil, hnew]
  intro v hv
  rcases List.mem_append.mp hv with hv | hv
  · exact hw v hv
  · obtain ⟨entity, _, hrecord⟩ := hrecords v hv
    exact keyed_of_recorded hrecord

/-- Throughout a run that succeeds every stored key is the last key of its id, exactly if
no update gives another key to a vertex that it finds. -/
theorem keys_kept_iff (changes : List Change) (w : World) (hw : w.graph.Keyed)
    (hok : Succeeds run changes w) :
    (∀ ep ∈ episodes run changes w, (ep.before.after ep.op.run).graph.Keyed) ↔
      ∀ ep ∈ episodes run changes w, ep.op.KeepsKey ep.before.graph := by
  refine invariant_iff_of_step (fun change _ w hw hok => ?_) hw hok
  obtain ⟨a, ha⟩ := hok
  cases change with
  | create c => exact iff_of_true (keyed_of_create ha hw) trivial
  | update u => exact Update.keyed_of_run_iff ha hw

def switchedOn : List Change :=
  [create (.device (.ofTemplate "d" "bus" .device) {} {} [.ofTemplate "c" "ecu" .component]),
    update (.component "d" "c" (Dict.ofList [("deviceId", .string "c"), ("state", .string "on")]))]

theorem keys_kept_switchedOn : Succeeds run switchedOn {} ∧
    (∀ ep ∈ episodes run switchedOn {}, ep.op.KeepsKey ep.before.graph) ∧
    ∀ ep ∈ episodes run switchedOn {}, (ep.before.after ep.op.run).graph.Keyed := by
  have hok : Succeeds run switchedOn {} :=
    List.forall_mem_cons.mpr ⟨⟨(), rfl⟩, List.forall_mem_singleton.mpr ⟨(), rfl⟩⟩
  have hkeeps : ∀ ep ∈ episodes run switchedOn {}, ep.op.KeepsKey ep.before.graph := by
    refine List.forall_mem_cons.mpr ⟨trivial, List.forall_mem_singleton.mpr ?_⟩
    intro id _ _ value hvalue
    exact (Option.some.inj hvalue).symm
  have hempty : ({} : Graph).Keyed := fun _ hm => absurd hm List.not_mem_nil
  exact ⟨hok, hkeeps, (keys_kept_iff switchedOn {} hempty hok).mpr hkeeps⟩

def rekeyed : List Change :=
  [create (.device (.ofTemplate "d" "bus" .device) {} {} []),
    update (.device { Node.ofTemplate "d" "bus" .device with
      attributes := Dict.ofList [("deviceId", .string "other"), ("state", .string "on")] })]

/-- A key that drifts: both operations succeed, and the vertex `device___d` ends with the
key `other`. -/
theorem keys_drift : Succeeds run rekeyed {} ∧
    (∃ ep ∈ episodes run rekeyed {}, ¬ (ep.before.after ep.op.run).graph.Keyed) ∧
    ((episodes run rekeyed {}).map fun ep => (ep.before.after ep.op.run).graph.vertices.map
      fun v => (v.properties.get? idProperty, v.properties.get? Devices.keyProperty)) =
        [[(some (.string "device___d"), some (.string "d"))],
          [(some (.string "device___d"), some (.string "other"))]] := by
  have hok : Succeeds run rekeyed {} :=
    List.forall_mem_cons.mpr ⟨⟨(), rfl⟩, List.forall_mem_singleton.mpr ⟨(), rfl⟩⟩
  have hd : Identity.decode "device___d" = .ok (.device, ["d"]) := rfl
  refine ⟨hok, ⟨_, List.mem_cons_of_mem _ List.mem_cons_self, fun hkeyed => ?_⟩, by decide⟩
  exact absurd ((Properties.keyed_iff rfl hd).mp (hkeyed _ List.mem_cons_self)) (by decide)

end Change

end Store

end DeviceGraph
