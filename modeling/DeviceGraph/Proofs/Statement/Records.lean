import DeviceGraph.Assembly.Row
import DeviceGraph.Proofs.Checks
import DeviceGraph.Proofs.Statement.Parameters
import DeviceGraph.Statement.Entity

/-!
# What statements write

The clauses of a statement are run one after the other on the vertices that it
has created so far, each known by its variable. A statement that grows from
another one keeps its parameters and adds clauses, so what it writes can be told
step by step: every step adds the records of its own vertices and leaves those
under other variables alone.
-/

set_option autoImplicit false

namespace DeviceGraph

namespace Properties

/-- Writes one property; `null` removes it. -/
def put (properties : Properties) (key : String) (value : Json) : Properties :=
  if value.isNull then properties.erase key else properties.insert key value

def merge (properties : Properties) : Json → Properties
  | .object members => members.foldl (fun properties m => put properties m.1 m.2) properties
  | _ => properties

theorem get?_put (properties : Properties) (key other : String) (value : Json) :
    (properties.put key value).get? other =
      if other = key then if value.isNull then none else some value
      else properties.get? other := by
  unfold put
  cases hv : value.isNull with
  | true => rw [if_pos rfl, if_pos rfl, Dict.get?_erase]
  | false => rw [if_neg Bool.false_ne_true, if_neg Bool.false_ne_true, Dict.get?_insert]

theorem get?_foldl_put (members : List (String × Json)) (h : (members.map (·.1)).Nodup)
    (properties : Properties) (key : String) :
    (members.foldl (fun properties m => put properties m.1 m.2) properties).get? key =
      match Entries.get? key members with
      | some value => if value.isNull then none else some value
      | none => properties.get? key := by
  induction members generalizing properties with
  | nil => rfl
  | cons member rest ih =>
    obtain ⟨name, value⟩ := member
    obtain ⟨hname, hrest⟩ := List.nodup_cons.mp h
    rw [List.foldl_cons, ih hrest, get?_put, Entries.get?]
    by_cases hk : key = name
    · subst hk
      rw [(Entries.get?_eq_none_iff key rest).mpr hname]
      simp
    · simp [hk]

theorem get?_merge (properties : Properties) (d : Dict Json) (key : String) :
    (properties.merge (.ofDict d)).get? key =
      match d.get? key with
      | some value => if value.isNull then none else some value
      | none => properties.get? key :=
  get?_foldl_put d.entries d.nodup_keys properties key

end Properties

/-! ## Running clauses -/

abbrev Created := List (String × Properties)

namespace Clause

def change (value : String → Json) (var : String) (properties : Properties) : Clause → Properties
  | mergeProperties other slot => if other = var then properties.merge (value slot) else properties
  | setProperties other items =>
    if other = var then items.foldl (fun p item => p.put item.1.name (value item.2)) properties
    else properties
  | removeProperties other keys =>
    if other = var then keys.foldl (fun p key => p.erase key.name) properties else properties
  | _ => properties

def run (value : String → Json) (created : Created) : Clause → Created
  | createVertex var _ idSlot chainSlot =>
    created ++ [(var, (Properties.put .empty idProperty (value idSlot)).put labelProperty
      (value chainSlot))]
  | clause => created.map fun v => (v.1, clause.change value v.1 v.2)

def Passive : Clause → Prop
  | createVertex .. | mergeProperties .. | setProperties .. | removeProperties .. => False
  | _ => True

theorem run_of_passive {c : Clause} (h : c.Passive) (value : String → Json) (created : Created) :
    c.run value created = created := by
  cases c <;> first | exact h.elim | exact List.map_id' created

end Clause

namespace Statement

def value (s : Statement) (slot : String) : Json := (s.param? slot).getD .null

def created (s : Statement) : Created := s.clauses.foldl (Clause.run s.value) []

/-- The properties of the vertices that a statement creates, in their order. What it
matches is taken to exist. -/
def records (s : Statement) : List Properties := s.created.map (·.2)

structure Writes (s t : Statement) (new : Created) : Prop where
  fresh : t.Fresh
  kept : ∀ {name v}, s.param? name = some v → t.param? name = some v
  clauses : ∃ cs, t.clauses = s.clauses ++ cs ∧ ∀ value : String → Json,
    (∀ name v, t.param? name = some v → value name = v) →
    ∀ before : Created, (∀ v ∈ before, v.1 ∉ new.map (·.1)) →
      cs.foldl (Clause.run value) before = before ++ new

theorem Writes.refl {s : Statement} (h : s.Fresh) : Writes s s [] :=
  ⟨h, id, [], (List.append_nil _).symm, fun _ _ before _ => (List.append_nil before).symm⟩

theorem Writes.trans {s t u : Statement} {a b : Created} (h : Writes s t a) (g : Writes t u b)
    (hd : ∀ v ∈ a, v.1 ∉ b.map (·.1)) : Writes s u (a ++ b) := by
  obtain ⟨cs, hcs, hrun⟩ := h.clauses
  obtain ⟨ds, hds, grun⟩ := g.clauses
  refine ⟨g.fresh, fun hv => g.kept (h.kept hv), cs ++ ds, ?_, ?_⟩
  · rw [hds, hcs, List.append_assoc]
  · intro value hvalue before hb
    have hba : ∀ v ∈ before, v.1 ∉ a.map (·.1) := fun v hm ha =>
      hb v hm (by rw [List.map_append]; exact List.mem_append_left _ ha)
    have hbb : ∀ v ∈ before ++ a, v.1 ∉ b.map (·.1) := by
      intro v hm
      rcases List.mem_append.mp hm with hm | hm
      · exact fun hv => hb v hm (by rw [List.map_append]; exact List.mem_append_right _ hv)
      · exact hd v hm
    rw [List.foldl_append, hrun value (fun name v hv => hvalue name v (g.kept hv)) before hba,
      grun value hvalue (before ++ a) hbb, List.append_assoc]

theorem Writes.then_nothing {s t u : Statement} {a : Created} (h : Writes s t a)
    (g : Writes t u []) : Writes s u a := by
  have hu := h.trans g fun _ _ => List.not_mem_nil
  rwa [List.append_nil] at hu

theorem Writes.after_nothing {s t u : Statement} {a : Created} (h : Writes s t [])
    (g : Writes t u a) : Writes s u a :=
  h.trans g fun _ hm => absurd hm List.not_mem_nil

/-- A statement that grew from one without clauses writes exactly what was added. -/
theorem Writes.created_eq {s t : Statement} {new : Created} (h : Writes s t new)
    (hs : s.clauses = []) : t.created = new := by
  obtain ⟨cs, hcs, hrun⟩ := h.clauses
  have hvalue : ∀ name v, t.param? name = some v → t.value name = v := by
    intro name v hv
    rw [value, hv]
    rfl
  rw [created, hcs, hs, List.nil_append,
    hrun t.value hvalue [] fun _ hm => absurd hm List.not_mem_nil, List.nil_append]

theorem Writes.push {s : Statement} (h : s.Fresh) {c : Clause} (hc : c.Passive) :
    Writes s (s.push c) [] := by
  refine ⟨h.push c, id, [c], rfl, fun value _ before _ => ?_⟩
  rw [List.foldl_cons, List.foldl_nil, Clause.run_of_passive hc, List.append_nil]

theorem Writes.bindFresh {s : Statement} (h : s.Fresh) {stem : String} (hstem : Lettered stem)
    (v : Json) : Writes s (s.bindFresh stem v).1 [] :=
  ⟨h.bindFresh hstem v, h.param?_bindFresh_of_bound hstem v, [],
    (List.append_nil _).symm, fun _ _ before _ => (List.append_nil before).symm⟩

/-! ## Entities -/

theorem stems_lettered : Lettered "vid" ∧ Lettered "eid" ∧ Lettered "id" ∧ Lettered "label" ∧
    Lettered "props" := by decide

theorem writes_vertex {s t : Statement} (h : s.Fresh) {var vertexId : String}
    {pattern : VertexPattern} (hv : s.vertex var vertexId = .ok (t, pattern)) : Writes s t [] := by
  obtain ⟨_, _, hok⟩ := (Checks.bind_eq_ok_iff _ _ _).mp hv
  cases hok
  exact .bindFresh h stems_lettered.1 _

theorem writes_createEdge {s : Statement} (h : s.Fresh) (ids : EdgeIds) (origin : String)
    (relation : Identifier) (head : String) :
    Writes s (s.createEdge ids origin relation head) [] := by
  have hbind := Writes.bindFresh h stems_lettered.2.1 (.string (ids s.issued))
  exact hbind.then_nothing (.push hbind.fresh trivial)

theorem writes_linkIfFound {s t : Statement} (h : s.Fresh) {ids : EdgeIds}
    {var relation otherId : String} {direction : Direction}
    (hl : s.linkIfFound ids var direction relation otherId = .ok t) : Writes s t [] := by
  obtain ⟨relation, _, hl⟩ := (Checks.bind_eq_ok_iff _ _ _).mp hl
  obtain ⟨⟨s₁, pattern⟩, hv, hl⟩ := (Checks.bind_eq_ok_iff _ _ _).mp hl
  cases hl
  have hvertex := writes_vertex h hv
  have hid := Writes.bindFresh hvertex.fresh stems_lettered.2.1 (.string (ids s₁.issued))
  have hkeep := Writes.push hid.fresh (c := .keep var) trivial
  have hfind := Writes.push hkeep.fresh (c := .findOptional pattern) trivial
  refine hvertex.then_nothing (hid.then_nothing (hkeep.then_nothing (hfind.then_nothing ?_)))
  exact .push hfind.fresh trivial

theorem writes_linkAll {s t : Statement} (h : s.Fresh) {ids : EdgeIds} {var : String}
    {encode : String → Except DomainError String} {links : List (Direction × String × String)}
    (hl : linkAll ids var encode s links = .ok t) : Writes s t [] := by
  induction links generalizing s with
  | nil =>
    cases hl
    exact .refl h
  | cons link links ih =>
    obtain ⟨direction, relation, key⟩ := link
    obtain ⟨otherId, _, hl⟩ := (Checks.bind_eq_ok_iff _ _ _).mp hl
    obtain ⟨s₁, hlink, hl⟩ := (Checks.bind_eq_ok_iff _ _ _).mp hl
    have hone := writes_linkIfFound h hlink
    exact hone.then_nothing (ih hone.fresh hl)

def vertexRecord (vertexId : String) (node : Node) (keyProperty : String) : Properties :=
  ((Properties.put .empty idProperty (.string vertexId)).put labelProperty
    (.string node.typeChain)).merge (.ofDict (creationProperties node keyProperty))

theorem run_create_and_merge {value : String → Json} {before : Created} {var : String}
    (hb : ∀ v ∈ before, v.1 ≠ var) (labels : List Identifier)
    (idSlot chainSlot propsSlot : String) :
    [Clause.createVertex var labels idSlot chainSlot, .mergeProperties var propsSlot].foldl
      (Clause.run value) before = before ++ [(var,
        ((Properties.put .empty idProperty (value idSlot)).put labelProperty
          (value chainSlot)).merge (value propsSlot))] := by
  have hkeep : before.map (fun v => (v.1, (Clause.mergeProperties var propsSlot).change value
      v.1 v.2)) = before := by
    refine (List.map_congr_left fun v hm => ?_).trans before.map_id
    rw [Clause.change, if_neg (hb v hm).symm]
    rfl
  rw [List.foldl_cons, List.foldl_cons, List.foldl_nil, Clause.run, Clause.run, List.map_append,
    hkeep]
  · simp [Clause.change]
  · exact fun _ _ _ _ he => Clause.noConfusion he

theorem param?_bindFresh_new (s : Statement) (stem : String) (v : Json) :
    (s.bindFresh stem v).1.param? (numbered stem s.issued) = some v := by
  rw [param?_bindFresh, if_pos rfl]

def bindVertex (s : Statement) (vertexId : String) (node : Node) (keyProperty : String) :
    Statement :=
  (((s.bindFresh "id" (.string vertexId)).1.bindFresh "label" (.string node.typeChain)).1.bindFresh
    "props" (.ofDict (creationProperties node keyProperty))).1

theorem createVertex_eq_ok {s t : Statement} {var vertexId keyProperty : String} {node : Node}
    {category : Category} (h : s.createVertex var vertexId node category keyProperty = .ok t) :
    ∃ labels, vertexLabels node category vertexId = .ok labels ∧
      t = ((s.bindVertex vertexId node keyProperty).push (.createVertex var labels
        (numbered "id" s.issued) (numbered "label" (s.issued + 1)))).push
          (.mergeProperties var (numbered "props" (s.issued + 2))) := by
  obtain ⟨labels, hlabels, hok⟩ := (Checks.bind_eq_ok_iff _ _ _).mp h
  exact ⟨labels, hlabels, (Except.ok.inj hok).symm⟩

theorem writes_bindVertex {s : Statement} (h : s.Fresh) (vertexId : String) (node : Node)
    (keyProperty : String) : Writes s (s.bindVertex vertexId node keyProperty) [] ∧
      (s.bindVertex vertexId node keyProperty).param? (numbered "id" s.issued) =
        some (.string vertexId) ∧
      (s.bindVertex vertexId node keyProperty).param? (numbered "label" (s.issued + 1)) =
        some (.string node.typeChain) ∧
      (s.bindVertex vertexId node keyProperty).param? (numbered "props" (s.issued + 2)) =
        some (.ofDict (creationProperties node keyProperty)) := by
  obtain ⟨_, _, hid, hlabel, hprops⟩ := stems_lettered
  have h₁ := Writes.bindFresh h hid (.string vertexId)
  have h₂ := Writes.bindFresh h₁.fresh hlabel (.string node.typeChain)
  have h₃ := Writes.bindFresh h₂.fresh hprops (.ofDict (creationProperties node keyProperty))
  exact ⟨h₁.then_nothing (h₂.then_nothing h₃),
    h₃.kept (h₂.kept (param?_bindFresh_new s "id" _)),
    h₃.kept (param?_bindFresh_new _ "label" _), param?_bindFresh_new _ "props" _⟩

theorem writes_createVertex {s t : Statement} (h : s.Fresh) {var vertexId keyProperty : String}
    {node : Node} {category : Category}
    (hc : s.createVertex var vertexId node category keyProperty = .ok t) :
    Writes s t [(var, vertexRecord vertexId node keyProperty)] := by
  obtain ⟨labels, _, rfl⟩ := createVertex_eq_ok hc
  obtain ⟨hbind, hid, hlabel, hprops⟩ := writes_bindVertex h vertexId node keyProperty
  refine ⟨(hbind.fresh.push _).push _, hbind.kept, _, List.append_assoc _ _ _, ?_⟩
  intro value hvalue before hb
  have hvar : ∀ v ∈ before, v.1 ≠ var := fun v hm => by simpa using hb v hm
  rw [List.singleton_append, run_create_and_merge hvar, hvalue _ _ hid, hvalue _ _ hlabel,
    hvalue _ _ hprops, vertexRecord]

end Statement

end DeviceGraph
