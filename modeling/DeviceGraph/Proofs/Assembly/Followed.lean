import DeviceGraph.Item.Basic
import DeviceGraph.Proofs.Assembly.Hops
import Mathlib.Data.List.Nodup
import Mathlib.Data.List.Perm.Subperm

/-!
# Entities that paths lead to

Around a root every edge is followed once, whatever is listed about it. So the linked nodes of
a category are as many as the edges that lead to an entity of the category, and an entity that
several edges lead to is among them once for each of these edges.
-/

set_option autoImplicit false

namespace DeviceGraph.Assembly
open Checks

def reached? (row : Projection) (path : PathRow) : Option Node :=
  (hop? row.edges row.vertices path).bind fun hop => (node hop.2).toOption

/-- The followed paths that lead to entities of a category: one for every edge. -/
def followedTo (row : Projection) (category : Category) : List PathRow :=
  (unseen [] (pathsOf row)).filter fun path => (reached? row path).any (·.category = category)

def EdgesApart (row : Projection) (category : Category) : Prop :=
  ∀ a ∈ followedTo row category, ∀ b ∈ followedTo row category, a.vertex = b.vertex →
    a.edge = b.edge

instance (row : Projection) (category : Category) : Decidable (EdgesApart row category) :=
  inferInstanceAs (Decidable (∀ a ∈ followedTo row category, ∀ b ∈ followedTo row category,
    a.vertex = b.vertex → a.edge = b.edge))

variable {row : Projection} {n : Node}

/-! ## Edges that were not seen before -/

theorem not_mem_of_mem_unseen {seen : List String} {paths : List PathRow} {path : PathRow}
    (h : path ∈ unseen seen paths) : path.edge ∉ seen := by
  fun_induction unseen seen paths with
  | case1 seen => exact absurd h List.not_mem_nil
  | case2 seen first rest hs ih => exact ih h
  | case3 seen first rest hs ih =>
    rcases List.mem_cons.mp h with rfl | h
    · exact fun hm => hs (List.contains_iff_mem.mpr hm)
    · exact fun hm => ih h (List.mem_cons_of_mem _ hm)

theorem nodup_edges_unseen (seen : List String) (paths : List PathRow) :
    ((unseen seen paths).map (·.edge)).Nodup := by
  fun_induction unseen seen paths with
  | case1 seen => exact List.nodup_nil
  | case2 seen path rest hs ih => exact ih
  | case3 seen path rest hs ih =>
    refine List.nodup_cons.mpr ⟨fun hm => ?_, ih⟩
    obtain ⟨other, hother, hedge⟩ := List.mem_map.mp hm
    exact not_mem_of_mem_unseen hother (hedge ▸ List.mem_cons_self)

theorem nodup_edges_followedTo (row : Projection) (category : Category) :
    ((followedTo row category).map (·.edge)).Nodup :=
  (List.filter_sublist.map _).nodup (nodup_edges_unseen [] (pathsOf row))

/-! ## What is linked -/

theorem stringProperty?_of_vertex? {vertices : List Properties} {id : String} {v : Properties}
    (h : vertex? vertices id = some v) :
    v ∈ vertices ∧ stringProperty? v idProperty = some id := by
  rw [vertex?] at h
  have hid := List.find?_some h
  exact ⟨List.mem_reverse.mp (List.mem_of_find?_eq_some h), of_decide_eq_true hid⟩

/-- A path leads to a listed vertex with the id that it names. -/
theorem of_reached? {path : PathRow} {other : Node} (h : reached? row path = some other) :
    other.vertexId = some path.vertex ∧
      some path.vertex ∈ row.vertices.map (stringProperty? · idProperty) := by
  obtain ⟨⟨edge, v⟩, hhop, hnode⟩ := Option.bind_eq_some_iff.mp h
  have hv : vertex? row.vertices path.vertex = some v := by
    rw [hop?] at hhop
    split at hhop
    · next hfound =>
      cases hhop
      exact hfound
    · cases hhop
  have hnode : node v = .ok other := by
    cases hcase : node v with
    | error err => simp [hcase, Except.toOption] at hnode
    | ok found => simpa [hcase, Except.toOption] using hnode
  obtain ⟨hm, hid⟩ := stringProperty?_of_vertex? hv
  obtain ⟨vertexId, _, _, hid', _, _, rfl⟩ := (node_eq_ok_iff _ _).mp hnode
  exact ⟨hid'.symm.trans hid, List.mem_map.mpr ⟨v, hm, hid⟩⟩

/-- The linked nodes are those that the followed paths lead to, in some order. -/
theorem perm_targets_of_projection (h : projection row = .ok n) :
    n.links.targets.Perm ((unseen [] (pathsOf row)).filterMap (reached? row)) := by
  obtain ⟨root, hroot, hlinks⟩ := (bind_eq_ok_iff _ _ _).mp h
  rw [linkSurroundings, linkPaths_eq_unseen, foldlM_addHop] at hlinks
  obtain ⟨links, hlinked, rfl⟩ := (map_eq_ok_iff _ _ _).mp hlinks
  have hlinked := (mapM_linkOfHop_eq_ok_iff.mp hlinked).eq_filterMap
  rw [(node_leaf hroot).unlinked]
  refine (Links.perm_targets_addAll_empty _).trans ?_
  rw [List.map_map, hlinked, List.map_filterMap, List.filterMap_filterMap]
  refine .of_eq (List.filterMap_congr fun path _ => ?_)
  rw [reached?]
  cases hop? row.edges row.vertices path with
  | none => rfl
  | some hop => simp [added, Function.comp_def]

theorem map_vertexId_filterMap (paths : List PathRow) (category : Category) :
    ((paths.filterMap (reached? row)).filter (·.category = category)).map (·.vertexId) =
      (paths.filter fun path => (reached? row path).any (·.category = category)).map
        fun path => some path.vertex := by
  induction paths with
  | nil => rfl
  | cons path rest ih =>
    cases hr : reached? row path with
    | none =>
      rw [List.filterMap_cons_none hr, List.filter_cons_of_neg (by simp [hr])]
      exact ih
    | some other =>
      rw [List.filterMap_cons_some hr]
      by_cases hc : other.category = category
      · rw [List.filter_cons_of_pos (by simp [hc]), List.filter_cons_of_pos (by simp [hr, hc]),
          List.map_cons, List.map_cons, ih, (of_reached? hr).1]
      · rw [List.filter_cons_of_neg (by simp [hc]), List.filter_cons_of_neg (by simp [hr, hc])]
        exact ih

/-- An entity is among the linked nodes once for every edge that leads to it. -/
theorem perm_vertexIds_linkedNodes (h : projection row = .ok n) (category : Category) :
    ((Item.linkedNodes n category).map (·.vertexId)).Perm
      ((followedTo row category).map fun path => some path.vertex) := by
  have hperm := ((perm_targets_of_projection h).filter (·.category = category)).map (·.vertexId)
  rwa [map_vertexId_filterMap] at hperm

/-! ## Entities that are linked once -/

theorem nodup_vertices_iff (row : Projection) (category : Category) :
    ((followedTo row category).map fun path => some path.vertex).Nodup ↔
      EdgesApart row category := by
  have hedges := nodup_edges_followedTo row category
  have hinj := List.inj_on_of_nodup_map hedges
  rw [List.nodup_map_iff_inj_on hedges.of_map, EdgesApart]
  refine forall₂_congr fun a ha => forall₂_congr fun b hb => ?_
  rw [Option.some.injEq]
  exact imp_congr_right fun _ => ⟨congrArg _, fun hedge => hinj ha hb hedge⟩

theorem nodup_vertexIds_iff (h : projection row = .ok n) (category : Category) :
    ((Item.linkedNodes n category).map (·.vertexId)).Nodup ↔ EdgesApart row category := by
  rw [(perm_vertexIds_linkedNodes h category).nodup_iff, nodup_vertices_iff]

theorem length_linkedNodes (h : projection row = .ok n) (category : Category) :
    (Item.linkedNodes n category).length = (followedTo row category).length := by
  have hlength := (perm_vertexIds_linkedNodes h category).length_eq
  rwa [List.length_map, List.length_map] at hlength

/-- Entities that are followed once are no more than those that are listed. -/
theorem EdgesApart.length_le {category : Category} (h : EdgesApart row category) :
    (followedTo row category).length ≤ row.vertices.length := by
  have hlisted : (followedTo row category).map (fun path => some path.vertex) ⊆
      row.vertices.map (stringProperty? · idProperty) := by
    intro id hid
    obtain ⟨path, hm, rfl⟩ := List.mem_map.mp hid
    rw [followedTo, List.mem_filter, Option.any_eq_true] at hm
    obtain ⟨_, other, hr, _⟩ := hm
    exact (of_reached? hr).2
  have hle := (List.subperm_of_subset ((nodup_vertices_iff row category).mpr h) hlisted).length_le
  rwa [List.length_map, List.length_map] at hle

end DeviceGraph.Assembly
