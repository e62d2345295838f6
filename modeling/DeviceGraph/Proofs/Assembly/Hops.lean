import DeviceGraph.Proofs.Assembly.WellFormed
import DeviceGraph.Proofs.Distinct
import Mathlib.Data.List.Nodup

/-!
# The hops of a projection

A projection lists edges and vertices around a root, and paths that say which edge reaches
which vertex. Following the paths and passing over edges that were seen is linking the root
along the hops of its different paths, as long as no two edges, vertices or paths have one id.
-/

set_option autoImplicit false

namespace DeviceGraph

/-- Looking from the end finds the one item that there is. -/
theorem find?_reverse_eq_some_iff {α : Type} {p : α → Bool} {xs : List α}
    (h : ∀ a ∈ xs, ∀ b ∈ xs, p a = true → p b = true → a = b) (a : α) :
    xs.reverse.find? p = some a ↔ a ∈ xs ∧ p a = true := by
  constructor
  · intro hfind
    exact ⟨List.mem_reverse.mp (List.mem_of_find?_eq_some hfind), List.find?_some hfind⟩
  · rintro ⟨hm, hp⟩
    cases hfind : xs.reverse.find? p with
    | none => exact absurd hp (List.find?_eq_none.mp hfind a (List.mem_reverse.mpr hm))
    | some b =>
      have hb := List.mem_reverse.mp (List.mem_of_find?_eq_some hfind)
      rw [h b hb a hm (List.find?_some hfind) hp]

namespace Assembly
open Checks

def pathsOf (row : Projection) : List PathRow := row.paths ++ row.pathsIn ++ row.pathsOut

structure Consistent (row : Projection) : Prop where
  edges : ∀ a ∈ row.edges, ∀ b ∈ row.edges, a.id = b.id → a = b
  vertices : ∀ a ∈ row.vertices, ∀ b ∈ row.vertices, stringProperty? a idProperty ≠ none →
    stringProperty? a idProperty = stringProperty? b idProperty → a = b
  paths : ∀ a ∈ pathsOf row, ∀ b ∈ pathsOf row, a.edge = b.edge → a.vertex = b.vertex

def Reaches (row : Projection) (edge : EdgeRow) (vertex : Properties) : Prop :=
  ∃ path ∈ pathsOf row, (edge ∈ row.edges ∧ edge.id = path.edge) ∧
    vertex ∈ row.vertices ∧ stringProperty? vertex idProperty = some path.vertex

/-- The paths that are not passed over: the first along every edge that was not seen before. -/
def unseen : List String → List PathRow → List PathRow
  | _, [] => []
  | seen, path :: rest =>
    if seen.contains path.edge then unseen seen rest
    else path :: unseen (path.edge :: seen) rest

def hop? (edges : List EdgeRow) (vertices : List Properties) (path : PathRow) :
    Option (EdgeRow × Properties) :=
  match edge? edges path.edge, vertex? vertices path.vertex with
  | some edge, some vertex => some (edge, vertex)
  | _, _ => none

def hops (edges : List EdgeRow) (vertices : List Properties) (paths : List PathRow) :
    List (EdgeRow × Properties) := paths.eraseDups.filterMap (hop? edges vertices)

def heading (own : String) (edge : EdgeRow) : Direction :=
  if edge.head = own then .incoming else .outgoing

def linkOfHop (hop : EdgeRow × Properties) : Except GraphError (EdgeRow × Node) :=
  (fun other => (hop.1, other)) <$> node hop.2

def added (own : String) (link : EdgeRow × Node) : Direction × String × Node :=
  (heading own link.1, link.1.label, link.2)

def addHop (own : String) (n : Node) (link : EdgeRow × Node) : Node :=
  n.addLink (heading own link.1) link.1.label link.2

/-! ## From paths to hops -/

section Hops

variable {own : String} {edges : List EdgeRow} {vertices : List Properties} {paths : List PathRow}

theorem eq_of_edge {row : Projection} (h : Consistent row) {a b : PathRow} (ha : a ∈ pathsOf row)
    (hb : b ∈ pathsOf row) (hedge : a.edge = b.edge) : a = b := by
  have hvertex := h.paths a ha b hb hedge
  cases a
  cases b
  cases hedge
  cases hvertex
  rfl

/-- Following the paths is linking along the hops of those that are not passed over. -/
theorem linkPaths_eq_unseen (seen : List String) (n : Node) :
    linkPaths own edges vertices seen paths n =
      ((unseen seen paths).filterMap (hop? edges vertices)).foldlM
        (fun n hop => addHop own n <$> linkOfHop hop) n := by
  fun_induction linkPaths own edges vertices seen paths n with
  | case1 seen n => rfl
  | case2 seen path rest n hs ih => rw [unseen, if_pos hs, ih]
  | case3 seen path rest n hs edge vertex hv he ih =>
    have hhop : hop? edges vertices path = some (edge, vertex) := by rw [hop?, he, hv]
    rw [unseen, if_neg hs, List.filterMap_cons_some hhop, List.foldlM_cons, linkOfHop]
    cases hnode : node vertex with
    | error e => rfl
    | ok other => exact ih other
  | case4 seen path rest n hs hmissing ih =>
    have hhop : hop? edges vertices path = none := by
      rw [hop?]
      split
      · next edge vertex he hv => exact (hmissing edge vertex he hv).elim
      · rfl
    rw [unseen, if_neg hs, List.filterMap_cons_none hhop, ih]

/-- Passing over edges that were seen is passing over paths that were seen. -/
theorem unseen_eq (hpaths : ∀ a ∈ paths, ∀ b ∈ paths, a.edge = b.edge → a = b)
    (seen : List String) :
    unseen seen paths = (paths.filter fun path => !seen.contains path.edge).eraseDups := by
  induction paths generalizing seen with
  | nil => rfl
  | cons path rest ih =>
    obtain ⟨hfirst, hothers⟩ := List.forall_mem_cons.mp hpaths
    have hrest : ∀ a ∈ rest, ∀ b ∈ rest, a.edge = b.edge → a = b := fun a ha b hb =>
      hothers a ha b (List.mem_cons_of_mem _ hb)
    rw [unseen]
    by_cases hs : seen.contains path.edge = true
    · rw [if_pos hs, ih hrest, List.filter_cons_of_neg (by simp only [hs]; decide)]
    · have hkeep : (rest.filter fun p => !seen.contains p.edge).filter (fun p => !p == path) =
          rest.filter fun p => !(path.edge :: seen).contains p.edge := by
        rw [List.filter_filter]
        refine List.filter_congr fun p hp => ?_
        have hsame : (p == path) = decide (p.edge = path.edge) := by
          rw [Bool.eq_iff_iff, beq_iff_eq, decide_eq_true_iff]
          exact ⟨congrArg _, fun he => (hfirst p (List.mem_cons_of_mem _ hp) he.symm).symm⟩
        simp [hsame]
      rw [if_neg hs, ih hrest, List.filter_cons_of_pos (by simpa using hs), List.eraseDups_cons,
        hkeep]

theorem linkPaths_eq (hpaths : ∀ a ∈ paths, ∀ b ∈ paths, a.edge = b.edge → a = b)
    (seen : List String) (n : Node) : linkPaths own edges vertices seen paths n =
      (hops edges vertices (paths.filter fun path => !seen.contains path.edge)).foldlM
        (fun n hop => addHop own n <$> linkOfHop hop) n := by
  rw [linkPaths_eq_unseen, unseen_eq hpaths, hops]

theorem hop?_eq_some_iff (hedges : ∀ a ∈ edges, ∀ b ∈ edges, a.id = b.id → a = b)
    (hvertices : ∀ a ∈ vertices, ∀ b ∈ vertices, stringProperty? a idProperty ≠ none →
      stringProperty? a idProperty = stringProperty? b idProperty → a = b)
    (path : PathRow) (hop : EdgeRow × Properties) :
    hop? edges vertices path = some hop ↔ (hop.1 ∈ edges ∧ hop.1.id = path.edge) ∧
      hop.2 ∈ vertices ∧ stringProperty? hop.2 idProperty = some path.vertex := by
  have hedge : ∀ edge, edge? edges path.edge = some edge ↔ edge ∈ edges ∧ edge.id = path.edge := by
    intro edge
    rw [edge?, find?_reverse_eq_some_iff, decide_eq_true_iff]
    exact fun a ha b hb hpa hpb => hedges a ha b hb
      ((of_decide_eq_true hpa).trans (of_decide_eq_true hpb).symm)
  have hvertex : ∀ vertex, vertex? vertices path.vertex = some vertex ↔
      vertex ∈ vertices ∧ stringProperty? vertex idProperty = some path.vertex := by
    intro vertex
    rw [vertex?, find?_reverse_eq_some_iff, decide_eq_true_iff]
    refine fun a ha b hb hpa hpb => hvertices a ha b hb ?_
      ((of_decide_eq_true hpa).trans (of_decide_eq_true hpb).symm)
    rw [of_decide_eq_true hpa]
    exact Option.some_ne_none _
  rw [← hedge, ← hvertex, hop?]
  obtain ⟨edge, vertex⟩ := hop
  cases edge? edges path.edge <;> cases vertex? vertices path.vertex <;> simp

end Hops

/-! ## The hops of a projection -/

section Projections

variable {row other : Projection}

def hopsOf (row : Projection) : List (EdgeRow × Properties) :=
  hops row.edges row.vertices (pathsOf row)

theorem hopOf_eq_some_iff (h : Consistent row) (path : PathRow) (hop : EdgeRow × Properties) :
    hop? row.edges row.vertices path = some hop ↔ (hop.1 ∈ row.edges ∧ hop.1.id = path.edge) ∧
      hop.2 ∈ row.vertices ∧ stringProperty? hop.2 idProperty = some path.vertex :=
  hop?_eq_some_iff h.edges h.vertices path hop

theorem mem_hopsOf_iff (h : Consistent row) (edge : EdgeRow) (vertex : Properties) :
    (edge, vertex) ∈ hopsOf row ↔ Reaches row edge vertex := by
  simp only [hopsOf, hops, List.mem_filterMap, List.mem_eraseDups, hopOf_eq_some_iff h]
  exact Iff.rfl

theorem nodup_ids_hopsOf (h : Consistent row) : ((hopsOf row).map (·.1.id)).Nodup := by
  have hedges : ((pathsOf row).eraseDups.map (·.edge)).Nodup := by
    refine List.Nodup.map_on (fun a ha b hb hedge => ?_) (nodup_eraseDups _)
    exact eq_of_edge h (List.mem_eraseDups.mp ha) (List.mem_eraseDups.mp hb) hedge
  -- every hop has the id of its own path, so the ids are some of the edges of the paths
  have hids : ∀ paths : List PathRow, ((paths.filterMap (hop? row.edges row.vertices)).map
      (·.1.id)).Sublist (paths.map (·.edge)) := by
    intro paths
    induction paths with
    | nil => exact .slnil
    | cons path rest ih =>
      cases hp : hop? row.edges row.vertices path with
      | none =>
        rw [List.filterMap_cons_none hp]
        exact ih.cons _
      | some hop =>
        rw [List.filterMap_cons_some hp, List.map_cons, ((hopOf_eq_some_iff h path hop).mp hp).1.2]
        exact ih.cons_cons _
  exact (hids _).nodup hedges

structure SameListing (row other : Projection) : Prop where
  object : other.object = row.object
  edges : other.edges.Perm row.edges
  vertices : other.vertices.Perm row.vertices

theorem Consistent.of_sameListing (h : Consistent row) (hl : SameListing row other)
    (hpaths : ∀ path, path ∈ pathsOf other ↔ path ∈ pathsOf row) : Consistent other where
  edges := fun a ha b hb => h.edges a (hl.edges.mem_iff.mp ha) b (hl.edges.mem_iff.mp hb)
  vertices := fun a ha b hb =>
    h.vertices a (hl.vertices.mem_iff.mp ha) b (hl.vertices.mem_iff.mp hb)
  paths := fun a ha b hb => h.paths a ((hpaths a).mp ha) b ((hpaths b).mp hb)

theorem hop?_of_sameListing (h : Consistent row) (g : Consistent other)
    (hl : SameListing row other) (path : PathRow) :
    hop? other.edges other.vertices path = hop? row.edges row.vertices path := by
  ext hop
  rw [hopOf_eq_some_iff g, hopOf_eq_some_iff h, hl.edges.mem_iff, hl.vertices.mem_iff]

theorem hopsOf_eq (h : Consistent row) (g : Consistent other) (hl : SameListing row other)
    (hpaths : (pathsOf other).eraseDups = (pathsOf row).eraseDups) : hopsOf other = hopsOf row := by
  rw [hopsOf, hopsOf, hops, hops, hpaths]
  exact List.filterMap_congr fun path _ => hop?_of_sameListing h g hl path

theorem hopsOf_perm (h : Consistent row) (g : Consistent other) (hl : SameListing row other)
    (hpaths : ∀ path, path ∈ pathsOf other ↔ path ∈ pathsOf row) :
    (hopsOf other).Perm (hopsOf row) := by
  have hperm : (pathsOf other).eraseDups.Perm (pathsOf row).eraseDups := by
    refine (List.perm_ext_iff_of_nodup (nodup_eraseDups _) (nodup_eraseDups _)).mpr fun path => ?_
    rw [List.mem_eraseDups, List.mem_eraseDups, hpaths]
  rw [hopsOf, hops, List.filterMap_congr fun path _ => hop?_of_sameListing h g hl path]
  exact hperm.filterMap _

end Projections

/-! ## From hops to links -/

section Links

variable {own : String} {found : List (EdgeRow × Properties)} {links : List (EdgeRow × Node)}

def Linked (found : List (EdgeRow × Properties)) (links : List (EdgeRow × Node)) : Prop :=
  List.Forall₂ (fun hop link => link.1 = hop.1 ∧ node hop.2 = .ok link.2) found links

theorem mapM_linkOfHop_eq_ok_iff : found.mapM linkOfHop = .ok links ↔ Linked found links := by
  have hlink : ∀ hop (link : EdgeRow × Node), linkOfHop hop = .ok link ↔
      link.1 = hop.1 ∧ node hop.2 = .ok link.2 := by
    rintro hop ⟨edge, other⟩
    rw [linkOfHop, map_eq_ok_iff]
    constructor
    · rintro ⟨_, hother, hlink⟩
      cases hlink
      exact ⟨rfl, hother⟩
    · rintro ⟨rfl, hother⟩
      exact ⟨other, hother, rfl⟩
  simp only [mapM_eq_ok_iff, hlink]
  exact Iff.rfl

theorem exists_linked_iff :
    (∃ links, Linked found links) ↔ ∀ hop ∈ found, ∃ other, node hop.2 = .ok other := by
  simp [← mapM_linkOfHop_eq_ok_iff, exists_mapM_iff, linkOfHop]

theorem Linked.map_fst (h : Linked found links) : links.map (·.1) = found.map (·.1) := by
  induction h with
  | nil => rfl
  | cons hfirst _ ih => rw [List.map_cons, List.map_cons, hfirst.1, ih]

theorem Linked.mem_iff (h : Linked found links) (edge : EdgeRow) (other : Node) :
    (edge, other) ∈ links ↔ ∃ vertex, (edge, vertex) ∈ found ∧ node vertex = .ok other := by
  induction h with
  | nil => simp
  | @cons hop link found links hfirst _ ih =>
    obtain ⟨hedge, hnode⟩ := hfirst
    constructor
    · intro hm
      rcases List.mem_cons.mp hm with rfl | hm
      · exact ⟨hop.2, List.mem_cons.mpr (.inl (Prod.ext hedge rfl)), hnode⟩
      · obtain ⟨vertex, hfound, hother⟩ := ih.mp hm
        exact ⟨vertex, List.mem_cons_of_mem _ hfound, hother⟩
    · rintro ⟨vertex, hm, hother⟩
      rcases List.mem_cons.mp hm with rfl | hm
      · rw [hnode] at hother
        cases hother
        exact List.mem_cons.mpr (.inl (Prod.ext hedge.symm rfl))
      · exact List.mem_cons_of_mem _ (ih.mpr ⟨vertex, hm, hother⟩)

/-- The links are determined by the hops. -/
theorem Linked.eq_filterMap (h : Linked found links) :
    links = found.filterMap fun hop => (node hop.2).toOption.map (hop.1, ·) := by
  induction h with
  | nil => rfl
  | @cons hop link _ _ hfirst _ ih =>
    rw [List.filterMap_cons, hfirst.2, ← ih, ← hfirst.1]
    rfl

theorem foldlM_addHop (n : Node) :
    found.foldlM (fun n hop => addHop own n <$> linkOfHop hop) n =
      (fun links => { n with links := n.links.addAll (links.map (added own)) }) <$>
        found.mapM linkOfHop := by
  rw [foldlM_map_eq]
  exact congrArg (· <$> found.mapM linkOfHop)
    (funext fun links => Node.foldl_addLink (added own) links n)

end Links

end Assembly

end DeviceGraph
