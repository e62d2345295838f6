import DeviceGraph.Proofs.Assembly.Hops

/-!
# What surrounds a root

When a projection lists no two edges or vertices under one id, and no edge with two vertices,
its root is linked once along every edge whose vertex is listed. The places where edges,
vertices and paths are listed decide on no more than the order of the links, and on which
failure is met first.
-/

set_option autoImplicit false

namespace DeviceGraph.Assembly
open Checks

variable {row other : Projection} {n root : Node} {links : List (EdgeRow × Node)}

theorem linkSurroundings_eq (h : Consistent row) (n : Node) : linkSurroundings n row =
    (fun links => { n with links := n.links.addAll (links.map (added (n.vertexId.getD ""))) }) <$>
      (hopsOf row).mapM linkOfHop := by
  refine (linkPaths_eq (fun a ha b hb => eq_of_edge h ha hb) [] n).trans ?_
  rw [foldlM_addHop, hopsOf, List.filter_eq_self.mpr fun _ _ => (by simp)]

theorem projection_eq (h : Consistent row) : projection row = node row.object >>= fun root =>
    (fun links => { root with
      links := root.links.addAll (links.map (added (root.vertexId.getD ""))) }) <$>
        (hopsOf row).mapM linkOfHop :=
  congrArg (node row.object >>= ·) (funext fun root => linkSurroundings_eq h root)

theorem projection_eq_ok_iff (h : Consistent row) : projection row = .ok n ↔
    ∃ root links, node row.object = .ok root ∧ Linked (hopsOf row) links ∧
      n = { root with
        links := Links.addAll {} (links.map (added (root.vertexId.getD ""))) } := by
  rw [projection_eq h, bind_eq_ok_iff]
  simp only [map_eq_ok_iff, mapM_linkOfHop_eq_ok_iff]
  constructor
  · rintro ⟨root, hroot, links, hlinked, rfl⟩
    exact ⟨root, links, hroot, hlinked, by rw [(node_leaf hroot).unlinked]⟩
  · rintro ⟨root, links, hroot, hlinked, rfl⟩
    exact ⟨root, hroot, links, hlinked, by rw [(node_leaf hroot).unlinked]⟩

/-- What a projection becomes: its root, linked once along every edge that a path resolves. -/
structure Surrounds (row : Projection) (own : String) (n : Node) (links : List (EdgeRow × Node)) :
    Prop where
  root : node row.object = .ok { n with links := {} }
  named : n.vertexId = some own
  distinct : (links.map (·.1.id)).Nodup
  mem_iff : ∀ edge other,
    (edge, other) ∈ links ↔ ∃ vertex, Reaches row edge vertex ∧ node vertex = .ok other
  linkCount : n.linkCount = links.length
  linked : ∀ direction relation, n.linked direction relation =
    (links.filter fun link => heading own link.1 = direction ∧ link.1.label = relation).map (·.2)

theorem surrounds_of_linked (h : Consistent row) (hroot : node row.object = .ok root)
    (hlinked : Linked (hopsOf row) links)
    (hn : n = { root with
      links := Links.addAll {} (links.map (added (root.vertexId.getD ""))) }) :
    Surrounds row (root.vertexId.getD "") n links where
  root := by
    rw [hroot, hn]
    exact congrArg Except.ok (Node.eq_of_unlinked (node_leaf hroot).unlinked).symm
  named := by
    obtain ⟨vertexId, _, _, _, _, _, rfl⟩ := (node_eq_ok_iff _ _).mp hroot
    rw [hn]
    rfl
  distinct := by
    have hids := congrArg (List.map EdgeRow.id) hlinked.map_fst
    rw [List.map_map, List.map_map] at hids
    exact (show links.map (·.1.id) = (hopsOf row).map (·.1.id) from hids) ▸ nodup_ids_hopsOf h
  mem_iff := by
    intro edge other
    simp only [hlinked.mem_iff, mem_hopsOf_iff h]
  linkCount := by
    rw [hn, Node.linkCount, Links.length_targets_addAll_empty, List.length_map]
  linked := by
    intro direction relation
    rw [hn, Node.linked, Links.get_addAll_empty, List.filter_map, List.map_map]
    rfl

/-- A projection succeeds when its root can be read, and all that its paths reach. -/
theorem exists_projection_iff (h : Consistent row) : (∃ n, projection row = .ok n) ↔
    (∃ root, node row.object = .ok root) ∧
      ∀ edge vertex, Reaches row edge vertex → ∃ other, node vertex = .ok other := by
  have hreached : (∃ links, Linked (hopsOf row) links) ↔
      ∀ edge vertex, Reaches row edge vertex → ∃ other, node vertex = .ok other := by
    simp only [exists_linked_iff, Prod.forall, mem_hopsOf_iff h]
  rw [← hreached]
  simp only [projection_eq_ok_iff h]
  constructor
  · rintro ⟨_, root, links, hroot, hlinked, _⟩
    exact ⟨⟨root, hroot⟩, links, hlinked⟩
  · rintro ⟨⟨root, hroot⟩, links, hlinked⟩
    exact ⟨_, root, links, hroot, hlinked, rfl⟩

theorem surrounds_of_projection (h : Consistent row) (hn : projection row = .ok n) :
    ∃ own links, Surrounds row own n links := by
  obtain ⟨root, links, hroot, hlinked, heq⟩ := (projection_eq_ok_iff h).mp hn
  exact ⟨_, links, surrounds_of_linked h hroot hlinked heq⟩

def Fails (row : Projection) (err : GraphError) : Prop :=
  node row.object = .error err ∨ (∃ root, node row.object = .ok root) ∧
    ∃ edge vertex, Reaches row edge vertex ∧ node vertex = .error err

theorem fails_of_projection (h : Consistent row) {err : GraphError}
    (he : projection row = .error err) : Fails row err := by
  rw [projection_eq h] at he
  cases hroot : node row.object with
  | error e =>
    rw [hroot] at he
    cases he
    exact .inl hroot
  | ok root =>
    rw [hroot] at he
    have hlinks := (map_eq_error_iff _ _ _).mp he
    obtain ⟨⟨edge, vertex⟩, hm, hlink⟩ := error_of_mapM hlinks
    have hvertex := (map_eq_error_iff _ _ _).mp hlink
    exact .inr ⟨⟨root, hroot⟩, edge, vertex, (mem_hopsOf_iff h edge vertex).mp hm, hvertex⟩

/-! ## Other places -/

/-- Where edges and vertices are listed, and how often paths are repeated, changes nothing. -/
theorem projection_eq_of_sameListing (h : Consistent row) (hl : SameListing row other)
    (hpaths : (pathsOf other).eraseDups = (pathsOf row).eraseDups) :
    projection other = projection row := by
  have hmem : ∀ path, path ∈ pathsOf other ↔ path ∈ pathsOf row := fun path => by
    rw [← List.mem_eraseDups, hpaths, List.mem_eraseDups]
  have g := h.of_sameListing hl hmem
  rw [projection_eq h, projection_eq g, hl.object, hopsOf_eq h g hl hpaths]

theorem Reaches.of_sameListing (hl : SameListing row other)
    (hpaths : ∀ path, path ∈ pathsOf other ↔ path ∈ pathsOf row) (edge : EdgeRow)
    (vertex : Properties) : Reaches other edge vertex ↔ Reaches row edge vertex := by
  simp only [Reaches, hpaths, hl.edges.mem_iff, hl.vertices.mem_iff]

theorem fails_of_sameListing (h : Consistent row) (hl : SameListing row other)
    (hpaths : ∀ path, path ∈ pathsOf other ↔ path ∈ pathsOf row) {err : GraphError}
    (he : projection other = .error err) : Fails row err := by
  have hfails := fails_of_projection (h.of_sameListing hl hpaths) he
  rw [Fails, hl.object] at hfails
  simp only [Reaches.of_sameListing hl hpaths] at hfails
  exact hfails

/-- Two failures, or the same node with its links in the same or in another order. -/
def Resembles (result other : Except GraphError Node) : Prop :=
  (∃ e e', result = .error e ∧ other = .error e') ∨
    ∃ n m : Node, result = .ok n ∧ other = .ok m ∧
      { m with links := {} } = { n with links := {} } ∧ n.links.Reordered m.links

/-- Where paths are listed decides on no more than the order of links, and on which failure
is met first. -/
theorem resembles_of_sameListing (h : Consistent row) (hl : SameListing row other)
    (hpaths : ∀ path, path ∈ pathsOf other ↔ path ∈ pathsOf row) :
    Resembles (projection row) (projection other) := by
  have g := h.of_sameListing hl hpaths
  have hsame : (∃ n, projection other = .ok n) ↔ ∃ n, projection row = .ok n := by
    rw [exists_projection_iff h, exists_projection_iff g, hl.object]
    simp only [Reaches.of_sameListing hl hpaths]
  cases hn : projection row with
  | error e =>
    cases hm : projection other with
    | error e' => exact .inl ⟨e, e', rfl, rfl⟩
    | ok m =>
      obtain ⟨n, hok⟩ := hsame.mp ⟨m, hm⟩
      cases hn.symm.trans hok
  | ok n =>
    obtain ⟨m, hm⟩ := hsame.mpr ⟨n, hn⟩
    obtain ⟨root, links, hroot, hlinked, rfl⟩ := (projection_eq_ok_iff h).mp hn
    obtain ⟨root', others, hroot', hothers, rfl⟩ := (projection_eq_ok_iff g).mp hm
    rw [hl.object, hroot] at hroot'
    cases hroot'
    refine .inr ⟨_, _, rfl, hm, rfl, Links.reordered_addAll (List.Perm.map _ ?_)⟩
    rw [hlinked.eq_filterMap, hothers.eq_filterMap]
    exact ((hopsOf_perm h g hl hpaths).filterMap _).symm

/-- A consistent projection becomes its root, linked once along every edge that some path
resolves; the places where edges, vertices and paths are listed decide on no more than the
order of the links, and on which of several failures is met first. -/
theorem projection_surrounds (h : Consistent row) :
    ((∃ n, projection row = .ok n) ↔ (∃ root, node row.object = .ok root) ∧
      ∀ edge vertex, Reaches row edge vertex → ∃ other, node vertex = .ok other) ∧
    (∀ n, projection row = .ok n → ∃ own links, Surrounds row own n links) ∧
    ∀ other, SameListing row other →
      ((pathsOf other).eraseDups = (pathsOf row).eraseDups → projection other = projection row) ∧
      ((∀ path, path ∈ pathsOf other ↔ path ∈ pathsOf row) →
        Resembles (projection row) (projection other) ∧
        ∀ err, projection other = .error err → Fails row err) :=
  ⟨exists_projection_iff h, fun _ => surrounds_of_projection h, fun _ hl =>
    ⟨projection_eq_of_sameListing h hl, fun hpaths =>
      ⟨resembles_of_sameListing h hl hpaths, fun _ => fails_of_sameListing h hl hpaths⟩⟩⟩

def busSurroundings : Projection where
  object := .ofList [("id", .string "device___a"), ("label", .string "bus::device")]
  pathsIn := [⟨"loop", "device___a"⟩, ⟨"e1", "device___a___c"⟩, ⟨"e2", "device___z"⟩]
  pathsOut := [⟨"loop", "device___a"⟩]
  edges := [⟨"loop", "watches", "device___a", "device___a"⟩,
    ⟨"e1", "component_of", "device___a", "device___a___c"⟩,
    ⟨"e2", "tows", "device___a", "device___z"⟩]
  vertices := [.ofList [("id", .string "device___a"), ("label", .string "bus::device")],
    .ofList [("id", .array [.string "device___a___c"]), ("label", .string "ecu::component")]]

def busRelisted : Projection :=
  { busSurroundings with
    paths := [⟨"e1", "device___a___c"⟩, ⟨"loop", "device___a"⟩, ⟨"e2", "device___z"⟩]
    pathsIn := []
    pathsOut := []
    edges := busSurroundings.edges.reverse }

theorem projection_surrounds_bus : Consistent busSurroundings ∧ ∃ n m,
    projection busSurroundings = .ok n ∧ projection busRelisted = .ok m ∧
      n.linkCount = 2 ∧ (∃ own links, Surrounds busSurroundings own n links) ∧
      n.links.Reordered m.links := by
  have h : Consistent busSurroundings := ⟨by decide, by decide, by decide⟩
  obtain ⟨_, hsurrounds, hother⟩ := projection_surrounds h
  obtain ⟨n, hn, hcount⟩ : ∃ n, projection busSurroundings = .ok n ∧ n.linkCount = 2 :=
    ⟨_, rfl, by decide⟩
  have hl : SameListing busSurroundings busRelisted := ⟨rfl, List.reverse_perm _, .refl _⟩
  have hpaths : ∀ path, path ∈ pathsOf busRelisted ↔ path ∈ pathsOf busSurroundings := by
    simp [pathsOf, busRelisted, busSurroundings, or_left_comm, or_comm]
  obtain ⟨hresembles, _⟩ := (hother busRelisted hl).2 hpaths
  rcases hresembles with ⟨e, _, he, _⟩ | ⟨n', m, hn', hm, _, hreordered⟩
  · cases hn.symm.trans he
  · cases hn.symm.trans hn'
    exact ⟨h, n, m, hn, hm, hcount, hsurrounds n hn, hreordered⟩

/-! The order in which paths are listed can be seen. -/

def halfTyped : Projection where
  object := .ofList [("id", .string "device___r"), ("label", .string "bus::device")]
  pathsIn := [⟨"e1", "device___a"⟩]
  pathsOut := [⟨"e2", "device___b"⟩]
  edges := [⟨"e1", "tows", "device___r", "device___a"⟩, ⟨"e2", "tows", "device___b", "device___r"⟩]
  vertices := [.ofList [("id", .string "device___a"), ("label", .string "bus")],
    .ofList [("id", .string "device___b"), ("label", .string "bus")]]

def halfTypedMoved : Projection :=
  { halfTyped with pathsIn := [], pathsOut := halfTyped.pathsOut ++ halfTyped.pathsIn }

def towed : Projection where
  object := halfTyped.object
  pathsIn := [⟨"e1", "device___a"⟩, ⟨"e2", "device___b"⟩]
  edges := [⟨"e1", "tows", "device___r", "device___a"⟩, ⟨"e2", "tows", "device___r", "device___b"⟩]
  vertices := [.ofList [("id", .string "device___a"), ("label", .string "bus::device")],
    .ofList [("id", .string "device___b"), ("label", .string "bus::device")]]

def towedBy (result : Except GraphError Node) : Option (List String) :=
  result.toOption.map fun n => (n.linked .incoming "tows").map (·.id)

theorem projection_order_seen :
    (Consistent halfTyped ∧ SameListing halfTyped halfTypedMoved ∧
      (∀ path, path ∈ pathsOf halfTypedMoved ↔ path ∈ pathsOf halfTyped) ∧
      projection halfTyped = .error (.domain (.invalidLabels "device___a" ["bus"])) ∧
      projection halfTypedMoved = .error (.domain (.invalidLabels "device___b" ["bus"]))) ∧
    Consistent towed ∧ ⟨"e2", "device___b"⟩ ∈ pathsOf towed ∧
      projection { towed with paths := [⟨"e2", "device___b"⟩] } ≠ projection towed := by
  refine ⟨⟨⟨by decide, by decide, by decide⟩, ⟨rfl, .refl _, .refl _⟩, ?_, rfl, rfl⟩,
    ⟨by decide, by decide, by decide⟩, by decide, fun h => ?_⟩
  · simp [pathsOf, halfTypedMoved, halfTyped, or_comm]
  · have htowed := congrArg towedBy h
    exact absurd htowed (by decide)

end DeviceGraph.Assembly
