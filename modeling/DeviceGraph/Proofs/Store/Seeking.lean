import DeviceGraph.Proofs.Store.Call
import DeviceGraph.Proofs.Store.Edge
import DeviceGraph.Proofs.Store.Opening

/-!
# What calls look for

An entity is addressed by its category and its natural keys. A statement that is about an
entity looks for a vertex with the id that the keys are encoded to, under the label of the
category; calls that are given vertex ids and calls that are given keys do it alike.
-/

set_option autoImplicit false

namespace DeviceGraph

def Clause.patterns : Clause → List VertexPattern
  | findVertices vertices => vertices
  | findOptional vertex => [vertex]
  | findEdges origin _ head => [origin, head]
  | _ => []

namespace Statement

def sought (s : Statement) : List (Identifier × Json) :=
  (s.clauses.flatMap Clause.patterns).map fun v => (v.label, s.value v.slot)

def Names (id : String) (label : Identifier) (value : Json) : Prop :=
  ∃ category keys, Identity.decode id = .ok (category, keys) ∧ label = category.identifier ∧
    value = .string id

/-- A statement looks for the vertices of some ids, in their order, and for no others. -/
def Seeks (s : Statement) (ids : List String) : Prop :=
  List.Forall₂ (fun id v => Names id v.1 v.2) ids s.sought

/-! ## Looking for vertices -/

variable {access : Access} {s t u : Statement} {var vertexId : String} {pattern : VertexPattern}

theorem value_of_param? {slot : String} {v : Json} (h : s.param? slot = some v) :
    s.value slot = v := by
  rw [value, h]
  rfl

theorem slot_of_vertex (h : s.vertex var vertexId = .ok (t, pattern)) :
    pattern.slot = numbered "vid" s.issued := by
  obtain ⟨_, _, _, _, rfl⟩ := vertex_eq_ok h
  rfl

theorem param?_of_vertex (h : s.vertex var vertexId = .ok (t, pattern)) :
    t.param? pattern.slot = some (.string vertexId) := by
  obtain ⟨_, _, _, rfl, rfl⟩ := vertex_eq_ok h
  exact param?_bindFresh_new s "vid" _

theorem names_of_vertex (h : s.vertex var vertexId = .ok (t, pattern))
    (hkept : u.param? pattern.slot = t.param? pattern.slot) :
    Names vertexId pattern.label (u.value pattern.slot) := by
  have hvalue := value_of_param? (hkept.trans (param?_of_vertex h))
  obtain ⟨category, keys, hd, rfl, rfl⟩ := vertex_eq_ok h
  exact ⟨category, keys, hd, rfl, hvalue⟩

/-- A statement with one pattern seeks the id that the pattern was made for. -/
theorem seeks_of_vertex (h : s.vertex var vertexId = .ok (t, pattern))
    (hkept : u.param? pattern.slot = t.param? pattern.slot)
    (hp : u.clauses.flatMap Clause.patterns = [pattern]) : u.Seeks [vertexId] := by
  rw [Seeks, sought, hp]
  exact .cons (names_of_vertex h hkept) .nil

end Statement

namespace Store
open Statement

variable {s : Statement}

theorem seeks_labels {vertexId : String} (h : labelsStatement vertexId = .ok s) :
    s.Seeks [vertexId] := by
  obtain ⟨⟨t, root⟩, hv, h⟩ := (Checks.bind_eq_ok_iff _ _ _).mp h
  cases h
  refine seeks_of_vertex hv rfl ?_
  rw [push, push, clauses_of_vertex hv]
  rfl

theorem seeks_delete {vertexId : String} (h : deleteStatement vertexId = .ok s) :
    s.Seeks [vertexId] := by
  obtain ⟨⟨t, root⟩, hv, h⟩ := (Checks.bind_eq_ok_iff _ _ _).mp h
  cases h
  refine seeks_of_vertex hv rfl ?_
  rw [push, push, clauses_of_vertex hv]
  rfl

theorem patterns_withChanges (s : Statement) (root : VertexPattern) (changes : Changes) :
    (withChanges s root changes).clauses.flatMap Clause.patterns =
      s.clauses.flatMap Clause.patterns ++ [root] := by
  have hchanges : changes.clauses.flatMap Clause.patterns = [] := by
    unfold Changes.clauses
    split <;> split <;> rfl
  rw [clauses_withChanges, List.flatMap_append, List.flatMap_cons, hchanges]
  rfl

theorem seeks_update {vertexId : String} {attributes : Dict Json}
    (h : updateStatement vertexId attributes = .ok (some s)) : s.Seeks [vertexId] := by
  obtain ⟨t, root, u, changes, hv, hbound, hs⟩ := updateStatement_eq_ok h
  split at hs
  · cases hs
  · cases hs
    have hslot := param?_of_vertex hv
    refine seeks_of_vertex hv ?_ ?_
    · rw [hslot, param?_withChanges]
      exact hbound.writes.kept hslot
    · rw [patterns_withChanges, hbound.clauses, clauses_of_vertex hv]
      rfl

theorem writes_filterPredicates {t : Statement} {entries : List (String × Json)}
    {predicates : List (List Piece)} (hs : s.Fresh)
    (h : filterPredicates s entries = .ok (t, predicates)) :
    Writes s t [] ∧ t.clauses = s.clauses := by
  induction entries generalizing s predicates with
  | nil =>
    cases h
    exact ⟨.refl hs, rfl⟩
  | cons entry entries ih =>
    obtain ⟨key, value⟩ := entry
    rw [filterPredicates] at h
    obtain ⟨property, _, h⟩ := (Checks.bind_eq_ok_iff _ _ _).mp h
    cases hnull : value.isNull with
    | true =>
      rw [if_pos hnull] at h
      obtain ⟨⟨u, more⟩, hmore, h⟩ := (Checks.bind_eq_ok_iff _ _ _).mp h
      cases h
      exact ih hs hmore
    | false =>
      rw [if_neg (by simp [hnull])] at h
      obtain ⟨⟨u, more⟩, hmore, h⟩ := (Checks.bind_eq_ok_iff _ _ _).mp h
      cases h
      have hbind := Writes.bindFresh hs (by decide : Lettered "f") value
      obtain ⟨hwrites, hclauses⟩ := ih hbind.fresh hmore
      exact ⟨hbind.then_nothing hwrites, hclauses⟩

/-- The bounds of a slice are not numbered. -/
theorem param?_slicePieces (s : Statement) (page : Option Page) (stem : String) (n : Nat) :
    (slicePieces s page).1.param? (numbered stem n) = s.param? (numbered stem n) := by
  cases page with
  | none => rfl
  | some page =>
    have hoffset := lettered_ne_numbered (by decide : Lettered "offset") stem n
    have hend := lettered_ne_numbered (by decide : Lettered "end") stem n
    rw [slicePieces, param?_bind, if_neg hend.symm, param?_bind, if_neg hoffset.symm]

theorem clauses_slicePieces (s : Statement) (page : Option Page) :
    (slicePieces s page).1.clauses = s.clauses := by
  cases page <;> rfl

/-- Clauses that only read look for no vertex of their own. -/
theorem patterns_found (h : s.clauses = []) (root : VertexPattern) (ps qs rs : List Piece) :
    ((((s.push (.findVertices [root])).push (.written ps)).push (.written qs)).push
      (.written rs)).clauses.flatMap Clause.patterns = [root] := by
  simp only [push, h]
  rfl

theorem seeks_related {rootId : String} {q : RelatedQuery}
    (h : relatedStatement rootId q = .ok s) : s.Seeks [rootId] := by
  obtain ⟨⟨t, root⟩, hv, h⟩ := (Checks.bind_eq_ok_iff _ _ _).mp h
  obtain ⟨pattern, _, h⟩ := (Checks.bind_eq_ok_iff _ _ _).mp h
  obtain ⟨⟨u, predicates⟩, hfilter, h⟩ := (Checks.bind_eq_ok_iff _ _ _).mp h
  cases h
  obtain ⟨hwrites, hclauses⟩ := writes_filterPredicates (writes_vertex (fresh_new _) hv).fresh hfilter
  have hslot := param?_of_vertex hv
  refine seeks_of_vertex hv ?_ ?_
  · rw [hslot, ← hwrites.kept hslot, slot_of_vertex hv]
    exact param?_slicePieces u q.page "vid" _
  · have hstart : (slicePieces u q.page).1.clauses = [] :=
      (clauses_slicePieces u q.page).trans (hclauses.trans (clauses_of_vertex hv))
    exact patterns_found hstart root _ _ _

/-! ## Looking for both ends of an edge -/

def ends (direction : Direction) (entity other : String) : List String :=
  match direction with
  | .incoming => [other, entity]
  | _ => [entity, other]

theorem mem_ends (direction : Direction) (entity other : String) :
    entity ∈ ends direction entity other ∧ other ∈ ends direction entity other := by
  cases direction <;> simp [ends]

theorem ends_eq {direction : Direction} {entity other originId headId : String}
    (h : endpoints entity direction other = .ok (originId, headId)) :
    ends direction entity other = [originId, headId] := by
  cases direction <;> cases h <;> rfl

theorem seeks_betweenEnds
    {finish : Statement → VertexPattern → Identifier → VertexPattern → Statement}
    (hfinish : ∀ t origin name head, t.clauses = [] →
      (finish t origin name head).clauses.flatMap Clause.patterns = [origin, head] ∧
        ∀ n, (finish t origin name head).param? (numbered "vid" n) = t.param? (numbered "vid" n))
    {entity relation other : String} {direction : Direction}
    (h : betweenEnds finish entity relation direction other = .ok s) :
    s.Seeks (ends direction entity other) := by
  obtain ⟨⟨originId, headId⟩, hends, h⟩ := (Checks.bind_eq_ok_iff _ _ _).mp h
  obtain ⟨⟨s₁, origin⟩, horigin, h⟩ := (Checks.bind_eq_ok_iff _ _ _).mp h
  obtain ⟨⟨s₂, head⟩, hhead, h⟩ := (Checks.bind_eq_ok_iff _ _ _).mp h
  obtain ⟨name, _, h⟩ := (Checks.bind_eq_ok_iff _ _ _).mp h
  cases h
  have hfirst := writes_vertex (fresh_new _) horigin
  have hsecond := writes_vertex hfirst.fresh hhead
  have hnone : s₂.clauses = [] := (clauses_vertex hhead).trans (clauses_of_vertex horigin)
  obtain ⟨hpatterns, hkept⟩ := hfinish s₂ origin name head hnone
  have hbound := param?_of_vertex horigin
  rw [Seeks, sought, hpatterns, ends_eq hends]
  refine .cons (names_of_vertex horigin ?_) (.cons (names_of_vertex hhead ?_) .nil)
  · rw [hbound, ← hsecond.kept hbound, slot_of_vertex horigin]
    exact hkept _
  · rw [slot_of_vertex hhead]
    exact hkept _

theorem seeks_attach {ids : EdgeIds} {entity relation other : String} {direction : Direction}
    (h : attachStatement ids entity relation direction other = .ok s) :
    s.Seeks (ends direction entity other) := by
  rw [attachStatement_eq] at h
  refine seeks_betweenEnds (fun t origin name head ht => ⟨?_, fun n => ?_⟩) h
  · simp only [push, Statement.bind, ht]
    rfl
  · have hne := lettered_ne_numbered (by decide : Lettered "edge_id") "vid" n
    exact (param?_bind t "edge_id" _ _).trans (if_neg hne.symm)

theorem seeks_detach {entity relation other : String} {direction : Direction}
    (h : detachStatement entity relation direction other = .ok s) :
    s.Seeks (ends direction entity other) := by
  rw [detachStatement_eq] at h
  refine seeks_betweenEnds (fun t origin name head ht => ⟨?_, fun n => ?_⟩) h
  · simp only [push, ht]
    rfl
  · rfl

theorem Devices.seeks_delete {device : String} (h : deleteStatement device = .ok s) :
    ∃ vertexId, Identity.deviceId device = .ok vertexId ∧ s.Seeks [vertexId] := by
  obtain ⟨vertexId, hid, h⟩ := (Checks.bind_eq_ok_iff _ _ _).mp h
  obtain ⟨⟨t, root⟩, hv, h⟩ := (Checks.bind_eq_ok_iff _ _ _).mp h
  cases h
  refine ⟨vertexId, liftDomain_ok hid, seeks_of_vertex hv rfl ?_⟩
  simp only [push, clauses_of_vertex hv]
  rfl

theorem Groups.seeks_ancestors {group : String} (h : ancestorsStatement group = .ok s) :
    ∃ vertexId, Identity.groupId group = .ok vertexId ∧ s.Seeks [vertexId] := by
  obtain ⟨vertexId, hid, h⟩ := (Checks.bind_eq_ok_iff _ _ _).mp h
  obtain ⟨⟨t, root⟩, hv, h⟩ := (Checks.bind_eq_ok_iff _ _ _).mp h
  cases h
  refine ⟨vertexId, liftDomain_ok hid, seeks_of_vertex hv rfl ?_⟩
  simp only [push, clauses_of_vertex hv]
  rfl

/-! ## What calls are about -/

abbrev Address := Category × List String

def Locates (s : Statement) (address : Address) : Prop :=
  ∃ vertexIds, s.Seeks vertexIds ∧
    ∃ vertexId ∈ vertexIds, Identity.encode address.1 address.2 = .ok vertexId

/-- What a statement seeks under the id of an address, it seeks under the label of the
category; and it does seek it if it locates the address. -/
theorem Locates.sought {address : Address} {vertexId : String} (h : Locates s address)
    (hid : Identity.encode address.1 address.2 = .ok vertexId) :
    (∃ v ∈ s.sought, v.2 = .string vertexId) ∧
      ∀ v ∈ s.sought, v.2 = .string vertexId → v.1 = address.1.identifier := by
  obtain ⟨vertexIds, hseeks, found, hfound, hencode⟩ := h
  cases hid.symm.trans hencode
  constructor
  · obtain ⟨i, hi, rfl⟩ := List.getElem_of_mem hfound
    have hv := hseeks.get hi (hseeks.length_eq ▸ hi)
    obtain ⟨_, _, _, _, hvalue⟩ := hv
    exact ⟨_, List.getElem_mem _, hvalue⟩
  · intro v hv hvalue
    obtain ⟨i, hi, rfl⟩ := List.getElem_of_mem hv
    obtain ⟨category, keys, hd, hlabel, hname⟩ := hseeks.get (hseeks.length_eq ▸ hi) hi
    cases Json.string.inj (hvalue.symm.trans hname)
    rw [Identity.decode_of_encode hid] at hd
    cases hd
    exact hlabel

variable {α : Type}

def EntityCall.vertexIds : EntityCall α → List String
  | labels vertexId _ | related vertexId _ | update vertexId _ | delete vertexId => [vertexId]
  | attach entity _ direction other | detach entity _ direction other =>
    ends direction entity other

def EntityCall.addresses (c : EntityCall α) : List Address :=
  c.vertexIds.filterMap fun vertexId => (Identity.decode vertexId).toOption

def DeviceCall.addresses : DeviceCall α → List Address
  | labels device _ | related device _ | delete device => [(.device, [device])]
  | update device => [(.device, [device.id])]
  | componentLabels device component _ | updateComponent device component _
  | deleteComponent device component => [(.component, [device, component])]
  | attachToGroup device _ _ group | detachFromGroup device _ _ group =>
    [(.device, [device]), (.group, [group])]
  | attachToDevice device _ _ other | detachFromDevice device _ _ other =>
    [(.device, [device]), (.device, [other])]
  | get .. | getAll .. | create .. | createComponent .. => []

def GroupCall.addresses : GroupCall α → List Address
  | labels group _ | related group _ | ancestors group | delete group => [(.group, [group])]
  | update group => [(.group, [group.id])]
  | attach group _ other | detach group _ other => [(.group, [group]), (.group, [other])]
  | get .. | getAll .. | create .. => []

def Call.addresses : Call α → List Address
  | entity c => c.addresses
  | device c => c.addresses
  | group c => c.addresses
  | search .. => []

variable {ids : EdgeIds} {p : Plan α} {address : Address}

namespace EntityCall

theorem seeks (c : EntityCall α) (h : c.plan ids = .ok p) :
    ∀ s ∈ p.statement, s.Seeks c.vertexIds := by
  intro s hs
  cases c with
  | labels =>
    obtain ⟨t, ht, h⟩ := (Checks.bind_eq_ok_iff _ _ _).mp h
    cases h
    cases hs
    exact seeks_labels ht
  | related =>
    obtain ⟨t, ht, h⟩ := (Checks.bind_eq_ok_iff _ _ _).mp h
    cases h
    cases hs
    exact seeks_related ht
  | attach =>
    obtain ⟨t, ht, h⟩ := (Checks.bind_eq_ok_iff _ _ _).mp h
    cases h
    cases hs
    exact seeks_attach ht
  | detach =>
    obtain ⟨t, ht, h⟩ := (Checks.bind_eq_ok_iff _ _ _).mp h
    cases h
    cases hs
    exact seeks_detach ht
  | update =>
    obtain ⟨statement, ht, h⟩ := (Checks.bind_eq_ok_iff _ _ _).mp h
    cases h
    cases hs
    exact seeks_update ht
  | delete =>
    obtain ⟨t, ht, h⟩ := (Checks.bind_eq_ok_iff _ _ _).mp h
    cases h
    cases hs
    exact seeks_delete ht

theorem locates (c : EntityCall α) (h : c.plan ids = .ok p) (ha : address ∈ c.addresses) :
    ∀ s ∈ p.statement, Locates s address := by
  intro s hs
  obtain ⟨vertexId, hm, hd⟩ := List.mem_filterMap.mp ha
  have hdecoded : Identity.decode vertexId = .ok address := by
    cases hv : Identity.decode vertexId with
    | error err => rw [hv] at hd; cases hd
    | ok found => rw [hv] at hd; exact congrArg _ (Option.some.inj hd)
  refine ⟨c.vertexIds, c.seeks h s hs, vertexId, hm, ?_⟩
  exact (Identity.encode_eq_ok_iff _ _ _).mpr ((Identity.decode_eq_ok_iff _ _ _).mp hdecoded)

/-- A call about one entity whose vertex id comes from natural keys. -/
theorem locates_of_bind {result : Except DomainError String} {call : String → EntityCall α}
    (h : (liftDomain result >>= fun vertexId => (call vertexId).plan ids) = .ok p)
    (hcall : ∀ vertexId, (call vertexId).vertexIds = [vertexId])
    (hresult : Identity.encode address.1 address.2 = result) :
    ∀ s ∈ p.statement, Locates s address := by
  intro s hs
  obtain ⟨vertexId, hid, h⟩ := (Checks.bind_eq_ok_iff _ _ _).mp h
  have hseeks := (call vertexId).seeks h s hs
  rw [hcall] at hseeks
  exact ⟨_, hseeks, vertexId, List.mem_singleton_self _, hresult.trans (liftDomain_ok hid)⟩

/-- A call about the two ends of an edge whose vertex ids come from natural keys. -/
theorem locates_of_bind_ends {result other : Except DomainError String} (direction : Direction)
    {call : String → String → EntityCall α}
    (h : (liftDomain result >>= fun vertexId => liftDomain other >>= fun otherId =>
      (call vertexId otherId).plan ids) = .ok p)
    (hcall : ∀ vertexId otherId, (call vertexId otherId).vertexIds =
      ends direction vertexId otherId)
    (hresult : Identity.encode address.1 address.2 = result ∨
      Identity.encode address.1 address.2 = other) :
    ∀ s ∈ p.statement, Locates s address := by
  intro s hs
  obtain ⟨vertexId, hid, h⟩ := (Checks.bind_eq_ok_iff _ _ _).mp h
  obtain ⟨otherId, hother, h⟩ := (Checks.bind_eq_ok_iff _ _ _).mp h
  have hseeks := (call vertexId otherId).seeks h s hs
  rw [hcall] at hseeks
  obtain ⟨hentity, hends⟩ := mem_ends direction vertexId otherId
  rcases hresult with hresult | hresult
  · exact ⟨_, hseeks, vertexId, hentity, hresult.trans (liftDomain_ok hid)⟩
  · exact ⟨_, hseeks, otherId, hends, hresult.trans (liftDomain_ok hother)⟩

end EntityCall

namespace DeviceCall

theorem locates (c : DeviceCall α) (h : c.plan ids = .ok p) (ha : address ∈ c.addresses) :
    ∀ s ∈ p.statement, Locates s address := by
  cases c with
  | get | getAll | create | createComponent => cases ha
  | labels | componentLabels | related | update | updateComponent | deleteComponent =>
    obtain rfl := List.mem_singleton.mp ha
    exact EntityCall.locates_of_bind h (fun _ => rfl) rfl
  | delete device =>
    obtain rfl := List.mem_singleton.mp ha
    obtain ⟨s, hs, h⟩ := (Checks.bind_eq_ok_iff _ _ _).mp h
    cases h
    obtain ⟨vertexId, hid, hseeks⟩ := Devices.seeks_delete hs
    exact fun t ht => Option.some.inj ht ▸ ⟨_, hseeks, vertexId, List.mem_singleton_self _, hid⟩
  | attachToGroup | detachFromGroup | attachToDevice | detachFromDevice =>
    refine EntityCall.locates_of_bind_ends _ h (fun _ _ => rfl) ?_
    rcases List.mem_pair.mp ha with rfl | rfl
    · exact .inl rfl
    · exact .inr rfl

end DeviceCall

namespace GroupCall

theorem locates (c : GroupCall α) (h : c.plan ids = .ok p) (ha : address ∈ c.addresses) :
    ∀ s ∈ p.statement, Locates s address := by
  cases c with
  | get | getAll | create => cases ha
  | labels | related | update | delete =>
    obtain rfl := List.mem_singleton.mp ha
    exact EntityCall.locates_of_bind h (fun _ => rfl) rfl
  | ancestors group =>
    obtain rfl := List.mem_singleton.mp ha
    obtain ⟨s, hs, h⟩ := (Checks.bind_eq_ok_iff _ _ _).mp h
    cases h
    obtain ⟨vertexId, hid, hseeks⟩ := Groups.seeks_ancestors hs
    exact fun t ht => Option.some.inj ht ▸ ⟨_, hseeks, vertexId, List.mem_singleton_self _, hid⟩
  | attach | detach =>
    refine EntityCall.locates_of_bind_ends .outgoing h (fun _ _ => rfl) ?_
    rcases List.mem_pair.mp ha with rfl | rfl
    · exact .inl rfl
    · exact .inr rfl

end GroupCall

namespace Call

theorem locates (c : Call α) (h : c.plan ids = .ok p) (ha : address ∈ c.addresses) :
    ∀ s ∈ p.statement, Locates s address := by
  cases c with
  | entity c => exact c.locates h ha
  | device c => exact c.locates h ha
  | group c => exact c.locates h ha
  | search => cases ha

/-- All that a call submits looks for the entities that the call is about. -/
theorem locates_submitted (c : Call α) (ha : address ∈ c.addresses) :
    c.run.Submits fun s => Locates s address :=
  c.planned.submits fun _ _ hp => c.locates hp ha

end Call

end Store

end DeviceGraph
