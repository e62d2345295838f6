import DeviceGraph.Proofs.Links
import DeviceGraph.Proofs.StableSort
import DeviceGraph.Proofs.Text.ByteOrder
import DeviceGraph.Relations
import Mathlib.Data.Prod.Lex
import Mathlib.Data.String.Basic

/-!
# Relations in the order of their additions

What is added to relations, or to the links of a node, stands behind what was added under the
same direction and relation before. The entries of relations are in order besides: what comes
in is in front of what goes out, and in each direction the relations are in the order of their
bytes. So the entries are a stable sort of all that was added.
-/

set_option autoImplicit false

namespace DeviceGraph

namespace Direction

/-- The direction in which a link is declared: what is not known to come in goes out. -/
def oriented : Direction → Direction
  | .incoming => .incoming
  | _ => .outgoing

def rank : Direction → Nat
  | .incoming => 0
  | .outgoing => 1
  | .both => 2

theorem rank_inj {d e : Direction} : d.rank = e.rank ↔ d = e := by
  cases d <;> cases e <;> decide

end Direction

namespace Relations

def addAll (r : Relations) (added : List (Direction × String × String)) : Relations :=
  added.foldl (fun r a => r.add a.1 a.2.1 a.2.2) r

def orient (a : Direction × String × String) : Direction × String × String := (a.1.oriented, a.2)

/-- Whether an entry may stand in front of another: by their directions, and in one direction by
the bytes of their relations. -/
def inOrder (a b : Direction × String × String) : Bool :=
  a.1.rank < b.1.rank ||
    a.1 = b.1 && Text.Utf8.encode a.2.1.toList ≤ Text.Utf8.encode b.2.1.toList

/-! ## What stands under a direction and a relation -/

def get (r : Relations) (direction : Direction) (relation : String) : List String :=
  match direction with
  | .incoming => (r.incoming.get? relation).getD []
  | .outgoing => (r.outgoing.get? relation).getD []
  | .both => []

theorem get_empty (direction : Direction) (relation : String) :
    empty.get direction relation = [] := by
  cases direction <;> rfl

theorem get_add (r : Relations) (direction d : Direction) (relation other key : String) :
    (r.add direction relation key).get d other =
      r.get d other ++ if direction.oriented = d ∧ relation = other then [key] else [] := by
  have hin := Entries.getD_get?_append relation other key r.incoming.entries
  have hout := Entries.getD_get?_append relation other key r.outgoing.entries
  cases direction <;> cases d <;>
    simp only [get, Direction.oriented, true_and, reduceCtorEq, false_and, if_false, List.append_nil]
  · exact hin
  · rfl
  · rfl
  · exact hout
  · rfl
  · exact hout

theorem get_addAll (r : Relations) (added : List (Direction × String × String)) (d : Direction)
    (other : String) : (r.addAll added).get d other =
      r.get d other ++
        (added.filter fun a => a.1.oriented = d ∧ a.2.1 = other).map (·.2.2) :=
  foldl_collects (fun r => r.get d other) (fun r a => get_add r a.1 d a.2.1 other a.2.2) r added

def sideEntries (direction : Direction) (d : Dict (List String)) :
    List (Direction × String × String) :=
  d.entries.flatMap fun entry => entry.2.map fun key => (direction, entry.1, key)

theorem entries_eq (r : Relations) :
    r.entries = sideEntries .incoming r.incoming ++ sideEntries .outgoing r.outgoing := rfl

theorem direction_of_mem_sideEntries {direction : Direction} {side : Dict (List String)}
    {a : Direction × String × String} (h : a ∈ sideEntries direction side) : a.1 = direction :=
  Entries.direction_of_mem_directed h

theorem filter_sideEntries (direction d : Direction) (side : Dict (List String))
    (relation : String) :
    (sideEntries direction side).filter (fun a => a.1 = d ∧ a.2.1 = relation) =
      if direction = d then ((side.get? relation).getD []).map fun key => (d, relation, key)
      else [] := by
  rw [sideEntries, ← Entries.directed, Entries.filter_directed side.sorted direction (· = d)]
  by_cases h : direction = d
  · subst h
    rfl
  · rw [if_neg h, if_neg h]

theorem filter_entries (r : Relations) (d : Direction) (relation : String) :
    r.entries.filter (fun a => a.1 = d ∧ a.2.1 = relation) =
      (r.get d relation).map fun key => (d, relation, key) := by
  rw [entries_eq, List.filter_append, filter_sideEntries, filter_sideEntries]
  cases d <;> simp [get]

/-! ## The order of the entries -/

def sortKey (a : Direction × String × String) : Nat ×ₗ String := toLex (a.1.rank, a.2.1)

theorem sortKey_eq_iff (a b : Direction × String × String) :
    sortKey a = sortKey b ↔ a.1 = b.1 ∧ a.2.1 = b.2.1 := by
  rw [sortKey, sortKey, toLex_inj, Prod.mk.injEq, Direction.rank_inj]

theorem inOrder_eq : inOrder = fun a b => decide (sortKey a ≤ sortKey b) := by
  funext a b
  rw [Bool.eq_iff_iff]
  simp [inOrder, sortKey, Prod.Lex.toLex_le_toLex, Direction.rank_inj,
    Text.Utf8.encode_le_encode_iff]

theorem pairwise_sideEntries (direction : Direction) (side : Dict (List String)) :
    (sideEntries direction side).Pairwise (sortKey · ≤ sortKey ·) := by
  rw [sideEntries, List.pairwise_flatMap]
  constructor
  · intro entry _
    rw [List.pairwise_map]
    exact List.pairwise_of_forall fun key key' => le_refl _
  · refine side.sorted.imp fun {entry other} hlt a ha b hb => ?_
    obtain ⟨key, -, rfl⟩ := List.mem_map.mp ha
    obtain ⟨key', -, rfl⟩ := List.mem_map.mp hb
    exact Prod.Lex.toLex_le_toLex.mpr (.inr ⟨rfl, le_of_lt hlt⟩)

theorem pairwise_entries (r : Relations) : r.entries.Pairwise (sortKey · ≤ sortKey ·) := by
  rw [entries_eq, List.pairwise_append]
  refine ⟨pairwise_sideEntries _ _, pairwise_sideEntries _ _, fun a ha b hb => ?_⟩
  refine Prod.Lex.toLex_le_toLex.mpr (.inl ?_)
  rw [direction_of_mem_sideEntries ha, direction_of_mem_sideEntries hb]
  exact Nat.zero_lt_one

theorem filter_entries_addAll (added : List (Direction × String × String)) (d : Direction)
    (relation : String) :
    (addAll .empty added).entries.filter (fun a => a.1 = d ∧ a.2.1 = relation) =
      (added.map orient).filter fun a => a.1 = d ∧ a.2.1 = relation := by
  rw [filter_entries, get_addAll, get_empty, List.nil_append, List.map_map, List.filter_map]
  refine List.map_congr_left fun a ha => ?_
  obtain ⟨rfl, rfl⟩ := of_decide_eq_true (List.mem_filter.mp ha).2
  rfl

theorem entries_addAll (added : List (Direction × String × String)) :
    (addAll .empty added).entries = (added.map orient).mergeSort inOrder := by
  rw [inOrder_eq]
  refine StableSort.eq_mergeSort (pairwise_entries _) fun b => ?_
  simp only [sortKey_eq_iff]
  exact filter_entries_addAll added b.1 b.2.1

theorem perm_entries_addAll (added : List (Direction × String × String)) :
    (addAll .empty added).entries.Perm (added.map orient) := by
  rw [entries_addAll]
  exact List.mergeSort_perm _ _

end Relations

namespace Node

def addLinks (n : Node) (added : List (Direction × String × Node)) : Node :=
  added.foldl (fun n a => n.addLink a.1 a.2.1 a.2.2) n

theorem addLinks_eq (n : Node) (added : List (Direction × String × Node)) :
    n.addLinks added = { n with links := n.links.addAll added } := by
  have h := foldl_addLink (fun a => a) added n
  rwa [List.map_id'] at h

theorem linked_addLinks (n : Node) (added : List (Direction × String × Node))
    (direction : Direction) (relation : String) :
    (n.addLinks added).linked direction relation = n.linked direction relation ++
      (added.filter fun a => a.1 = direction ∧ a.2.1 = relation).map (·.2.2) := by
  rw [addLinks_eq]
  exact Links.get_addAll n.links added direction relation

theorem linkCount_addLinks {n : Node} (h : n.links.Sorted)
    (added : List (Direction × String × Node)) :
    (n.addLinks added).linkCount = added.length + n.linkCount := by
  have hlength := (Links.perm_targets_addAll h added).length_eq
  rw [List.length_append, List.length_map] at hlength
  rw [addLinks_eq]
  exact hlength

theorem linked_of_linkCount_eq_zero {n : Node} (h : n.linkCount = 0) (direction : Direction)
    (relation : String) : n.linked direction relation = [] := by
  rw [List.eq_nil_iff_forall_not_mem]
  intro x hx
  have hmem := Links.mem_targets_of_mem_get hx
  rw [List.length_eq_zero_iff.mp h] at hmem
  exact List.not_mem_nil hmem

end Node

/-- Declared relations are a stable sort, by direction and relation, of all that was declared.
And a node that had no links, and whose relations are in order as links are kept, is linked under
every direction and relation to what was added there, in that order, and has as many links as
were added. -/
theorem additions_accumulate (declared : List (Direction × String × String)) {n : Node}
    (hsorted : n.links.Sorted) (hnone : n.linkCount = 0)
    (added : List (Direction × String × Node)) :
    (Relations.addAll .empty declared).entries =
        (declared.map Relations.orient).mergeSort Relations.inOrder ∧
      (∀ direction relation, (n.addLinks added).linked direction relation =
        (added.filter fun a => a.1 = direction ∧ a.2.1 = relation).map (·.2.2)) ∧
      (n.addLinks added).linkCount = added.length := by
  refine ⟨Relations.entries_addAll declared, fun direction relation => ?_, ?_⟩
  · rw [Node.linked_addLinks, Node.linked_of_linkCount_eq_zero hnone, List.nil_append]
  · rw [Node.linkCount_addLinks hsorted, hnone, Nat.add_zero]

def openedBus : Node :=
  { Node.ofTemplate "bus" "van" .device with links := { outgoing := some [("near", [])] } }

/-- Declarations with a repeat, with both directions under one relation, and with a letter that
has two bytes. -/
def busDeclarations : List (Direction × String × String) :=
  [(.both, "near", "west"), (.incoming, "manages", "ops"), (.outgoing, "älter", "van"),
    (.outgoing, "near", "east"), (.incoming, "manages", "ops")]

def busLinks : List (Direction × String × Node) :=
  [(.both, "near", .ofTemplate "west" "depot" .group),
    (.outgoing, "near", .ofTemplate "west" "depot" .group),
    (.both, "near", .ofTemplate "east" "depot" .group)]

theorem additions_accumulate_bus :
    openedBus.links.Sorted ∧ openedBus.linkCount = 0 ∧
    (busDeclarations.map Relations.orient).mergeSort Relations.inOrder =
      [(.incoming, "manages", "ops"), (.incoming, "manages", "ops"), (.outgoing, "near", "west"),
        (.outgoing, "near", "east"), (.outgoing, "älter", "van")] ∧
    ((openedBus.addLinks busLinks).linked .both "near").map (·.id) = ["west", "east"] ∧
    (openedBus.addLinks busLinks).linkCount = 3 := by
  have hsorted : openedBus.links.Sorted := by
    intro direction
    cases direction with
    | incoming => exact .nil
    | outgoing => exact List.pairwise_singleton _ _
    | both => exact .nil
  obtain ⟨hentries, hlinked, hcount⟩ :=
    additions_accumulate busDeclarations hsorted rfl busLinks
  refine ⟨hsorted, rfl, ?_, ?_, hcount⟩
  · rw [← hentries]
    rfl
  · rw [hlinked]
    rfl

end DeviceGraph
