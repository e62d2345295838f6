import DeviceGraph.Proofs.Assembly.Rows
import DeviceGraph.Store.Groups
import Mathlib.Algebra.GroupWithZero.Nat
import Mathlib.Data.List.Nodup

/-!
# Edges that tagged rows repeat

A projection passes over an edge that was seen. Tagged rows do not: every row that a node owns
is a link of it, so an edge is linked as often as the rows of its owner carry its id. An edge
from a group to itself is listed in both directions, and is linked twice.
-/

set_option autoImplicit false

namespace DeviceGraph.Assembly
open Checks

/-- The related rows that the vertex at a place is the first to own. -/
def ownRows (rows : List Row) (i : Nat) : List RelatedRow :=
  (relatedRows rows).filter fun row => ownerIndex? (vertexRows rows) row.owner = some i

/-- How often the rows that a vertex is the first to own carry the id of an edge. -/
def copies (rows : List Row) (i : Nat) (edge : String) : Nat :=
  (ownRows rows i).countP (·.edge.id = edge)

def copiesUnder (rows : List Row) (i : Nat) (edge : String) (direction : Direction)
    (relation : String) : Nat :=
  (ownRows rows i).countP fun row =>
    row.edge.id = edge ∧ row.direction = direction ∧ row.edge.label = relation

def Row.isApart (edge : String) : Row → Bool
  | .vertex _ => true
  | .related row => row.edge.id ≠ edge

def without (edge : String) (rows : List Row) : List Row := rows.filter (Row.isApart edge)

structure Adds (rows : List Row) (i : Nat) (edge : String) (n m : Node) : Prop where
  root : { m with links := {} } = { n with links := {} }
  linkCount : n.linkCount = m.linkCount + copies rows i edge
  linked : ∀ direction relation, (n.linked direction relation).length =
    (m.linked direction relation).length + copiesUnder rows i edge direction relation

variable {rows : List Row} {ns : List Node}

/-! ## Leaving an edge out -/

theorem vertexRows_without (edge : String) (rows : List Row) :
    vertexRows (without edge rows) = vertexRows rows := by
  induction rows with
  | nil => rfl
  | cons row rows ih =>
    cases row with
    | vertex properties => exact congrArg (properties :: ·) ih
    | related row =>
      rw [without, List.filter_cons]
      split <;> exact ih

theorem relatedRows_without (edge : String) (rows : List Row) :
    relatedRows (without edge rows) = (relatedRows rows).filter (·.edge.id ≠ edge) := by
  induction rows with
  | nil => rfl
  | cons row rows ih =>
    cases row with
    | vertex properties => exact ih
    | related row =>
      have hrows : relatedRows (.related row :: rows) = row :: relatedRows rows := rfl
      rw [without, List.filter_cons, hrows, List.filter_cons]
      by_cases hedge : row.edge.id = edge
      · rw [if_neg (by simp [Row.isApart, hedge]), if_neg (by simp [hedge])]
        exact ih
      · rw [if_pos (by simp [Row.isApart, hedge]), if_pos (by simp [hedge])]
        exact congrArg (row :: ·) ih

theorem ownRows_without (edge : String) (rows : List Row) (i : Nat) :
    ownRows (without edge rows) i = (ownRows rows i).filter (·.edge.id ≠ edge) := by
  rw [ownRows, ownRows, vertexRows_without, relatedRows_without, List.filter_comm]

theorem exists_nodes_without (h : nodes rows = .ok ns) (edge : String) :
    ∃ ms, nodes (without edge rows) = .ok ms := by
  obtain ⟨hvertices, hrelated⟩ := (exists_nodes_iff rows).mp ⟨ns, h⟩
  rw [exists_nodes_iff, vertexRows_without, relatedRows_without]
  exact ⟨hvertices, fun row hm => hrelated row (List.mem_of_mem_filter hm)⟩

/-! ## What an edge adds -/

variable {i : Nat} {properties : Properties} {n m : Node}

theorem Gathers.linkCount_eq {links : List (RelatedRow × Node)}
    (h : Gathers rows i properties n links) : n.linkCount = (ownRows rows i).length := by
  rw [h.linkCount, ← List.length_map, h.rows]
  rfl

theorem Gathers.length_linked {links : List (RelatedRow × Node)}
    (h : Gathers rows i properties n links) (direction : Direction) (relation : String) :
    (n.linked direction relation).length =
      (ownRows rows i).countP fun row => row.direction = direction ∧ row.edge.label = relation := by
  rw [h.linked, List.length_map, ← List.countP_eq_length_filter, ownRows, ← h.rows,
    List.countP_map]
  rfl

/-- Of the rows with some property, those of an edge and the others. -/
theorem countP_ownRows_without (rows : List Row) (i : Nat) (edge : String)
    (p : RelatedRow → Bool) : (ownRows rows i).countP p =
      (ownRows (without edge rows) i).countP p +
        (ownRows rows i).countP fun row => row.edge.id = edge && p row := by
  rw [ownRows_without, List.countP_filter]
  induction ownRows rows i with
  | nil => rfl
  | cons row own ih =>
    simp only [List.countP_cons, ih]
    by_cases hedge : row.edge.id = edge <;> cases p row <;> simp [hedge] <;> omega

theorem adds_of_gathers {links others : List (RelatedRow × Node)} {edge : String}
    (hn : Gathers rows i properties n links)
    (hm : Gathers (without edge rows) i properties m others) : Adds rows i edge n m where
  root := Except.ok.inj (hm.root.symm.trans hn.root)
  linkCount := by
    have hcount := countP_ownRows_without rows i edge fun _ => true
    simp only [List.countP_true, Bool.and_true] at hcount
    rw [hn.linkCount_eq, hm.linkCount_eq, hcount, copies]
  linked := by
    intro direction relation
    rw [hn.length_linked, hm.length_linked, countP_ownRows_without rows i edge, copiesUnder]
    simp only [Bool.decide_and]

theorem adds_of_nodes {ms : List Node} {edge : String} (h : nodes rows = .ok ns)
    (g : nodes (without edge rows) = .ok ms) (hn : ns[i]? = some n) (hm : ms[i]? = some m) :
    Adds rows i edge n m := by
  obtain ⟨hlength, hgathers⟩ := gathers_of_nodes h
  obtain ⟨hi, _⟩ := List.getElem?_eq_some_iff.mp hn
  obtain ⟨root, hvertex⟩ : ∃ root, (vertexRows rows)[i]? = some root :=
    ⟨_, List.getElem?_eq_getElem (Nat.lt_of_lt_of_eq hi hlength)⟩
  obtain ⟨links, hlinks⟩ := hgathers i _ n hvertex hn
  rw [← vertexRows_without edge] at hvertex
  obtain ⟨others, hothers⟩ := (gathers_of_nodes g).2 i _ m hvertex hm
  exact adds_of_gathers hlinks hothers

/-! ## How often an edge is linked -/

def ownEdges (rows : List Row) (i : Nat) (direction : Direction) : List String :=
  ((ownRows rows i).filter (·.direction = direction)).map (·.edge.id)

theorem copies_eq_count (rows : List Row) (i : Nat) (edge : String) :
    copies rows i edge = ((ownRows rows i).map (·.edge.id)).count edge := by
  rw [List.count_eq_countP, List.countP_map, copies]
  exact List.countP_congr fun row _ => by simp

theorem copies_le_one_iff (rows : List Row) (i : Nat) :
    (∀ edge, copies rows i edge ≤ 1) ↔ ((ownRows rows i).map (·.edge.id)).Nodup := by
  simp only [copies_eq_count, List.nodup_iff_count_le_one]

theorem copies_eq_sum (rows : List Row) (i : Nat) (edge : String) :
    copies rows i edge =
      (Direction.all.map fun direction => (ownEdges rows i direction).count edge).sum := by
  simp only [copies_eq_count, ownEdges]
  induction ownRows rows i with
  | nil => rfl
  | cons row own ih =>
    simp only [Direction.all, List.map_cons, List.map_nil, List.sum_cons, List.sum_nil,
      List.filter_cons, List.count_cons] at ih ⊢
    cases row.direction <;> simp [List.count_cons] <;> omega

/-- An edge that is listed at most once in each direction is linked once for every direction. -/
theorem copies_eq_countP (h : ∀ direction, (ownEdges rows i direction).Nodup) (edge : String) :
    copies rows i edge = Direction.all.countP (edge ∈ ownEdges rows i ·) := by
  rw [copies_eq_sum]
  simp only [(h _).count]
  induction Direction.all with
  | nil => rfl
  | cons direction all ih =>
    rw [List.map_cons, List.sum_cons, ih, List.countP_cons, Nat.add_comm]
    simp

def LinkedOnce (rows : List Row) (i : Nat) : Prop :=
  ∀ edge ns ms n m, nodes rows = .ok ns → nodes (without edge rows) = .ok ms →
    ns[i]? = some n → ms[i]? = some m → n.linkCount ≤ m.linkCount + 1

theorem copies_eq_zero_of_none (h : nodes rows = .ok ns) (hi : ns[i]? = none) (edge : String) :
    copies rows i edge = 0 := by
  rw [copies, List.countP_eq_zero]
  intro row hm
  have howner := of_decide_eq_true (List.mem_filter.mp hm).2
  obtain ⟨hlt, _⟩ := List.findIdx?_eq_some_iff_getElem.mp howner
  rw [List.getElem?_eq_none_iff, (gathers_of_nodes h).1] at hi
  exact absurd hlt (Nat.not_lt.mpr hi)

theorem linkedOnce_iff (h : nodes rows = .ok ns) (i : Nat) :
    LinkedOnce rows i ↔ ((ownRows rows i).map (·.edge.id)).Nodup := by
  rw [← copies_le_one_iff]
  constructor
  · intro honce edge
    obtain ⟨ms, hms⟩ := exists_nodes_without h edge
    have hlength : ms.length = ns.length := by
      rw [(gathers_of_nodes h).1, (gathers_of_nodes hms).1, vertexRows_without]
    cases hn : ns[i]? with
    | none => exact (copies_eq_zero_of_none h hn edge).trans_le (Nat.zero_le 1)
    | some n =>
      obtain ⟨hi, _⟩ := List.getElem?_eq_some_iff.mp hn
      have hm := List.getElem?_eq_getElem (Nat.lt_of_lt_of_eq hi hlength.symm)
      have hcount := (adds_of_nodes h hms hn hm).linkCount
      have hle := honce edge ns ms n _ h hms hn hm
      omega
  · intro hcopies edge ns' ms n m hns hms hn hm
    have hcount := (adds_of_nodes hns hms hn hm).linkCount
    have hle := hcopies edge
    omega

/-- An edge gives a node as many links as the rows that the node is the first to own carry its
id, so no edge gives it two exactly when these rows carry different ids. An edge that the rows
list at most once in each direction is linked once for every direction. -/
theorem nodes_linked_per_row (h : nodes rows = .ok ns) :
    (∀ edge, ∃ ms, nodes (without edge rows) = .ok ms ∧
      ∀ i n m, ns[i]? = some n → ms[i]? = some m → Adds rows i edge n m) ∧
    ∀ i, (LinkedOnce rows i ↔ ((ownRows rows i).map (·.edge.id)).Nodup) ∧
      ((∀ direction, (ownEdges rows i direction).Nodup) →
        ∀ edge, copies rows i edge = Direction.all.countP (edge ∈ ownEdges rows i ·)) := by
  refine ⟨fun edge => ?_, fun i => ⟨linkedOnce_iff h i, copies_eq_countP⟩⟩
  obtain ⟨ms, hms⟩ := exists_nodes_without h edge
  exact ⟨ms, hms, fun i n m hn hm => adds_of_nodes h hms hn hm⟩

theorem nodes_linked_per_row_tow : ∃ ns, nodes towRows = .ok ns ∧ LinkedOnce towRows 0 ∧
    copies towRows 0 "e1" = 1 := by
  obtain ⟨ns, hns⟩ : ∃ ns, nodes towRows = .ok ns := ⟨_, rfl⟩
  obtain ⟨_, honce⟩ := nodes_linked_per_row hns
  exact ⟨ns, hns, (honce 0).1.mpr (by decide), rfl⟩

/-! An edge from a group to itself. -/

def loopGroup : Json :=
  .object [("id", .string "group___/g"), ("label", .string "region::group")]

def loopEdge : Json := .object [("id", .string "loop"), ("inV", .string "group___/g"),
  ("label", .string "near"), ("outV", .string "group___/g")]

def loopAnswer : List Json :=
  [.object [("kind", .string "vertex"), ("props", loopGroup)],
    .object [("dir", .string "out"), ("e", loopEdge), ("kind", .string "related"),
      ("owner", .string "group___/g"), ("vProps", loopGroup)],
    .object [("dir", .string "in"), ("e", loopEdge), ("kind", .string "related"),
      ("owner", .string "group___/g"), ("vProps", loopGroup)]]

def loopProjection : Json := .object [("Es", .array [loopEdge]), ("Vs", .array [loopGroup]),
  ("object", loopGroup),
  ("pathsIn", .array [.object [("edge", .string "loop"), ("vertex", .string "group___/g")]]),
  ("pathsOut", .array [.object [("edge", .string "loop"), ("vertex", .string "group___/g")]])]

theorem loop_linked_twice :
    (∃ n, (Store.Groups.get "/g" true { replies := [.rows loopAnswer] }).1 = .ok (some n) ∧
      n.linkCount = 2) ∧
    (∃ rows, loopAnswer.mapM (readRow Row.ofJson?) = .ok rows ∧
      (ownRows rows 0).map (·.edge.id) = ["loop", "loop"] ∧ ¬ LinkedOnce rows 0) ∧
    ∃ n, projectionOfRow loopProjection = .ok n ∧ n.linkCount = 1 := by
  refine ⟨⟨_, rfl, rfl⟩, ⟨_, rfl, rfl, ?_⟩, ⟨_, rfl, rfl⟩⟩
  rw [linkedOnce_iff rfl]
  decide

end DeviceGraph.Assembly
