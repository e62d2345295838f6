import DeviceGraph.Proofs.Assembly.Followed
import DeviceGraph.Proofs.Service.Call

/-!
# Related items

The statement pages a list of different vertices, but an answer is linked edge by edge. So the
services list a related entity once for every edge that leads to it, and a page may hold more
items than vertices.
-/

set_option autoImplicit false

namespace DeviceGraph.Service
open Assembly Checks

variable {α : Type} {e e' : Engine}

inductive RelatedCall : Type → Type
  | groupsOfDevice (device : String) (q : RelatedQuery) : RelatedCall GroupItem
  | devicesOfDevice (device : String) (q : RelatedQuery) : RelatedCall DeviceItem
  | groupsOfGroup (group : String) (q : RelatedQuery) : RelatedCall GroupItem
  | devicesOfGroup (group : String) (q : RelatedQuery) : RelatedCall DeviceItem

namespace RelatedCall

def run : RelatedCall α → Session ServiceError (Option (List α))
  | groupsOfDevice device q => Devices.relatedGroups device q
  | devicesOfDevice device q => Devices.relatedDevices device q
  | groupsOfGroup group q => Groups.relatedGroups group q
  | devicesOfGroup group q => Groups.relatedDevices group q

def category : RelatedCall α → Category
  | groupsOfDevice .. | groupsOfGroup .. => .group
  | devicesOfDevice .. | devicesOfGroup .. => .device

def ofNode : RelatedCall α → Node → α
  | groupsOfDevice .. | groupsOfGroup .. => GroupItem.ofNode
  | devicesOfDevice .. | devicesOfGroup .. => DeviceItem.ofNode

def key : RelatedCall α → String
  | groupsOfDevice key _ | devicesOfDevice key _ | groupsOfGroup key _ | devicesOfGroup key _ => key

def asked : RelatedCall α → Store.Call (Option Node)
  | groupsOfDevice device q | devicesOfDevice device q => .device (.related device q)
  | groupsOfGroup group q | devicesOfGroup group q => .group (.related group q)

def itemsOf (c : RelatedCall α) (n : Node) : List α :=
  (Item.linkedNodes n c.category).map c.ofNode

theorem run_eq (c : RelatedCall α) : c.run = do
    Session.ofExcept (check (Identity.validateKey c.key))
    return (← inStore c.asked.run).map c.itemsOf := by
  cases c <;> rfl

/-- The plan is one statement, and the first row of the answer is what it is read for. -/
theorem asked_plan (c : RelatedCall α) {ids : EdgeIds} {p : Store.Plan (Option Node)}
    (h : c.asked.plan ids = .ok p) : ∃ s, p = .ask s Store.EntityCall.readRelated := by
  cases c with
  | groupsOfDevice | devicesOfDevice | groupsOfGroup | devicesOfGroup =>
    obtain ⟨root, _, h⟩ := (bind_eq_ok_iff _ _ _).mp h
    obtain ⟨s, _, h⟩ := (bind_eq_ok_iff _ _ _).mp h
    exact ⟨s, ((pure_eq_ok_iff _ _).mp h).symm⟩

theorem answered (c : RelatedCall α) {n : Node} (h : c.asked.run e = (.ok (some n), e')) :
    ∃ s first rest, Engine.Converses e [(s, .ok (first :: rest))] e' ∧
      projectionOfRow first = .ok n := by
  obtain ⟨p, hp⟩ := c.asked.planned.exists_plan (congrArg (·.1) h)
  obtain ⟨s, rfl⟩ := c.asked_plan hp
  have hconverses := c.asked.planned.converses hp
  have hresult := (c.asked.planned.result e _ hp).symm.trans (congrArg (·.1) h)
  rw [h] at hconverses
  obtain ⟨rows, hrows, hread⟩ := (bind_eq_ok_iff _ _ _).mp hresult
  cases rows with
  | nil => cases hread
  | cons first rest =>
    obtain ⟨_, hfirst, hn⟩ := (map_eq_ok_iff _ _ _).mp hread
    cases hn
    refine ⟨s, first, rest, ?_, hfirst⟩
    rw [← hrows]
    exact hconverses

theorem of_run (c : RelatedCall α) {items : List α} (h : c.run e = (.ok (some items), e')) :
    ∃ s first rest row n, Engine.Converses e [(s, .ok (first :: rest))] e' ∧
      readRow Projection.ofJson? first = .ok row ∧ projection row = .ok n ∧
      items = c.itemsOf n := by
  rw [c.run_eq] at h
  obtain ⟨_, e₁, hkey, h⟩ := (Session.bind_eq_ok_iff _ _ _ _ _).mp h
  obtain ⟨_, rfl⟩ := (Session.ofExcept_eq_ok_iff _ _ _ _).mp hkey
  obtain ⟨found, e₂, hfound, h⟩ := (Session.bind_eq_ok_iff _ _ _ _ _).mp h
  obtain ⟨hitems, rfl⟩ := (Session.pure_eq_ok_iff _ _ _ _).mp h
  obtain ⟨n, rfl, rfl⟩ := Option.map_eq_some_iff.mp hitems
  have hasked := (Session.mapError_eq_ok_iff _ _ _ _ _).mp hfound
  obtain ⟨s, first, rest, hconverses, hfirst⟩ := c.answered hasked
  obtain ⟨row, hrow, hn⟩ := (bind_eq_ok_iff _ _ _).mp hfirst
  exact ⟨s, first, rest, row, n, hconverses, hrow, hn, rfl⟩

/-- The items are those of the entities that the followed edges lead to, one for every edge.
They are of different entities exactly when no two of these edges lead to one entity, and then
they are no more than the vertices of the page. -/
theorem related_per_edge (c : RelatedCall α) {items : List α}
    (h : c.run e = (.ok (some items), e')) :
    ∃ s first rest row n, Engine.Converses e [(s, .ok (first :: rest))] e' ∧
      readRow Projection.ofJson? first = .ok row ∧ projection row = .ok n ∧
      items = (Item.linkedNodes n c.category).map c.ofNode ∧
      ((Item.linkedNodes n c.category).map (·.vertexId)).Perm
        ((followedTo row c.category).map fun path => some path.vertex) ∧
      (((Item.linkedNodes n c.category).map (·.vertexId)).Nodup ↔ EdgesApart row c.category) ∧
      (EdgesApart row c.category → items.length ≤ row.vertices.length) := by
  obtain ⟨s, first, rest, row, n, hconverses, hrow, hn, rfl⟩ := c.of_run h
  refine ⟨s, first, rest, row, n, hconverses, hrow, hn, rfl, perm_vertexIds_linkedNodes hn _,
    nodup_vertexIds_iff hn _, fun hapart => ?_⟩
  rw [itemsOf, List.length_map, length_linkedNodes hn]
  exact hapart.length_le

def pageRow (edges : List String) : Json := .object [
  ("Es", .array (edges.map fun edge => .object [("id", .string edge),
    ("inV", .string "device___bus"), ("label", .string "parks"),
    ("outV", .string "device___depot")])),
  ("Vs", .array [.object [("id", .string "device___bus"), ("label", .string "bus::device")]]),
  ("object", .object [("id", .string "device___depot"), ("label", .string "depot::device")]),
  ("pathsOut", .array (edges.map fun edge =>
    .object [("edge", .string edge), ("vertex", .string "device___bus")]))]

def firstParked : RelatedCall DeviceItem :=
  .devicesOfDevice "depot" { relation := "*", direction := .outgoing, page := some ⟨0, 1⟩ }

theorem related_per_edge_parked : ∃ item e',
    firstParked.run { replies := [.rows [pageRow ["e1"]]] } = (.ok (some [item]), e') ∧
      ∃ row n, readRow Projection.ofJson? (pageRow ["e1"]) = .ok row ∧ projection row = .ok n ∧
        ((Item.linkedNodes n .device).map (·.vertexId)).Nodup := by
  obtain ⟨item, e', hrun⟩ : ∃ item e',
      firstParked.run { replies := [.rows [pageRow ["e1"]]] } = (.ok (some [item]), e') :=
    ⟨_, _, rfl⟩
  obtain ⟨s, first, rest, row, n, hconverses, hrow, hn, _, _, hiff, _⟩ :=
    related_per_edge firstParked hrun
  have hfirst : first = pageRow ["e1"] := by
    have hanswer := hconverses.answers 0 _ rfl
    cases hanswer
    rfl
  rw [hfirst] at hrow
  have hapart : EdgesApart row .device := by
    cases hrow
    decide
  exact ⟨item, e', hrun, row, n, hrow, hn, hiff.mpr hapart⟩

/-! Two edges to one bus. -/

/-- The page holds one bus, and there are two items of it. -/
theorem bus_listed_twice : ∃ item e' row n,
    firstParked.run { replies := [.rows [pageRow ["e1", "e2"]]] } =
      (.ok (some [item, item]), e') ∧
    readRow Projection.ofJson? (pageRow ["e1", "e2"]) = .ok row ∧ row.vertices.length = 1 ∧
    projection row = .ok n ∧
    (Item.linkedNodes n .device).map (·.vertexId) =
      [some "device___bus", some "device___bus"] :=
  ⟨_, _, _, _, rfl, rfl, rfl, rfl, rfl⟩

end RelatedCall

end DeviceGraph.Service
