import DeviceGraph.Proofs.Assembly.WellFormed

/-!
# Tagged rows

Rows of vertices and rows of related entities may come in any mixture. Every vertex row
becomes a node, and every related row is a link of the first node that owns it, in the order
of the rows; a row that no node owns is passed over.
-/

set_option autoImplicit false

namespace DeviceGraph.Assembly
open Checks

inductive Mixed : List Properties → List RelatedRow → List Row → Prop
  | nil : Mixed [] [] []
  | vertex {vertices : List Properties} {related : List RelatedRow} {rows : List Row}
      (properties : Properties) (h : Mixed vertices related rows) :
      Mixed (properties :: vertices) related (.vertex properties :: rows)
  | related {vertices : List Properties} {related : List RelatedRow} {rows : List Row}
      (row : RelatedRow) (h : Mixed vertices related rows) :
      Mixed vertices (row :: related) (.related row :: rows)

theorem Mixed.rows_eq {vertices : List Properties} {related : List RelatedRow} {rows : List Row}
    (h : Mixed vertices related rows) : vertexRows rows = vertices ∧ relatedRows rows = related := by
  induction h with
  | nil => exact ⟨rfl, rfl⟩
  | vertex properties _ ih => exact ⟨congrArg (properties :: ·) ih.1, ih.2⟩
  | related row _ ih => exact ⟨ih.1, congrArg (row :: ·) ih.2⟩

theorem mixed_rows (rows : List Row) : Mixed (vertexRows rows) (relatedRows rows) rows := by
  induction rows with
  | nil => exact .nil
  | cons row rows ih =>
    cases row with
    | vertex properties => exact .vertex properties ih
    | related row => exact .related row ih

/-! ## Owners -/

def ownerIndex? (vertices : List Properties) (owner : String) : Option Nat :=
  vertices.findIdx? fun properties => stringProperty? properties idProperty = some owner

def holderIndex? (ns : List Node) (owner : String) : Option Nat :=
  ns.findIdx? fun n => n.vertexId = some owner

theorem holderIndex?_eq {vertices : List Properties} {ns : List Node}
    (h : List.Forall₂ (fun properties n => node properties = .ok n) vertices ns)
    (owner : String) : holderIndex? ns owner = ownerIndex? vertices owner := by
  induction h with
  | nil => rfl
  | @cons properties n _ _ hnode _ ih =>
    obtain ⟨vertexId, _, _, hid, _, _, rfl⟩ := (node_eq_ok_iff _ _).mp hnode
    rw [holderIndex?, ownerIndex?] at ih ⊢
    rw [List.findIdx?_cons, List.findIdx?_cons, hid, ih]

/-! ## One related row -/

def linkOf (row : RelatedRow) : Except GraphError (RelatedRow × Node) :=
  (fun other => (row, other)) <$> node row.vertex

def join (n : Node) (link : RelatedRow × Node) : Node :=
  n.addLink link.1.direction link.1.edge.label link.2

def attach (ns : List Node) (link : RelatedRow × Node) : List Node :=
  match holderIndex? ns link.1.owner with
  | none => ns
  | some i => ns.modify i (join · link)

theorem length_attach (ns : List Node) (link : RelatedRow × Node) :
    (attach ns link).length = ns.length := by
  rw [attach]
  cases holderIndex? ns link.1.owner with
  | none => rfl
  | some i => exact List.length_modify ..

theorem getElem?_attach (ns : List Node) (link : RelatedRow × Node) (i : Nat) :
    (attach ns link)[i]? =
      ns[i]?.map fun n => if holderIndex? ns link.1.owner = some i then join n link else n := by
  rw [attach]
  cases holderIndex? ns link.1.owner with
  | none => simp
  | some j => simp [List.getElem?_modify]

/-- Links leave the vertex ids as they are. -/
theorem vertexId_attach (ns : List Node) (link : RelatedRow × Node) :
    (attach ns link).map (·.vertexId) = ns.map (·.vertexId) := by
  refine List.ext_getElem? fun i => ?_
  rw [List.getElem?_map, List.getElem?_map, getElem?_attach, Option.map_map]
  refine congrArg (ns[i]?.map ·) (funext fun n => ?_)
  rw [Function.comp_apply]
  split <;> rfl

theorem holderIndex?_attach (ns : List Node) (link : RelatedRow × Node) (owner : String) :
    holderIndex? (attach ns link) owner = holderIndex? ns owner := by
  have hids : ∀ ns : List Node, holderIndex? ns owner =
      (ns.map (·.vertexId)).findIdx? fun id => id = some owner := fun ns => by
    rw [List.findIdx?_map]
    rfl
  rw [hids, hids, vertexId_attach]

theorem holderIndex?_cons (n : Node) (ns : List Node) (owner : String) :
    holderIndex? (n :: ns) owner =
      if n.vertexId = some owner then some 0 else (holderIndex? ns owner).map (· + 1) := by
  rw [holderIndex?, List.findIdx?_cons]
  simp [holderIndex?]

theorem attach_cons_of_eq {n : Node} (ns : List Node) (link : RelatedRow × Node)
    (h : n.vertexId = some link.1.owner) :
    attach (n :: ns) link = join n link :: ns := by
  rw [attach, holderIndex?_cons, if_pos h]
  rfl

theorem attach_cons_of_ne {n : Node} (ns : List Node) (link : RelatedRow × Node)
    (h : n.vertexId ≠ some link.1.owner) :
    attach (n :: ns) link = n :: attach ns link := by
  rw [attach, holderIndex?_cons, if_neg h, attach]
  cases holderIndex? ns link.1.owner <;> rfl

/-- A related row is read and attached when a node owns it, and passed over without one. -/
theorem linkToOwner_eq (row : RelatedRow) (ns : List Node) : linkToOwner row ns =
    if (holderIndex? ns row.owner).isSome then attach ns <$> linkOf row else .ok ns := by
  induction ns with
  | nil => rfl
  | cons n ns ih =>
    rw [linkToOwner, holderIndex?_cons]
    by_cases howner : n.vertexId = some row.owner
    · rw [if_pos howner, if_pos howner, linkRelated, linkOf]
      cases node row.vertex with
      | error e => rfl
      | ok other => exact congrArg Except.ok (attach_cons_of_eq ns (row, other) howner).symm
    · rw [if_neg howner, if_neg howner, ih, Option.isSome_map]
      by_cases hsome : (holderIndex? ns row.owner).isSome
      · rw [if_pos hsome, if_pos hsome, linkOf]
        cases node row.vertex with
        | error e => rfl
        | ok other => exact congrArg Except.ok (attach_cons_of_ne ns (row, other) howner).symm
      · rw [if_neg hsome, if_neg hsome]
        rfl

/-! ## All related rows -/

/-- The rows that a node owns are read, and then attached. -/
theorem foldlM_linkToOwner (rows : List RelatedRow) (ns : List Node) :
    rows.foldlM (fun ns row => linkToOwner row ns) ns =
      (fun links => links.foldl attach ns) <$>
        (rows.filter fun row => (holderIndex? ns row.owner).isSome).mapM linkOf := by
  induction rows generalizing ns with
  | nil => rfl
  | cons row rows ih =>
    rw [List.foldlM_cons, linkToOwner_eq]
    by_cases hsome : (holderIndex? ns row.owner).isSome
    · rw [if_pos hsome, List.filter_cons_of_pos (by simpa using hsome), List.mapM_cons]
      cases linkOf row with
      | error e => rfl
      | ok link =>
        -- attaching leaves the vertex ids as they are, so the same rows are owned afterwards
        refine (ih (attach ns link)).trans ?_
        simp only [holderIndex?_attach]
        cases (rows.filter fun row => (holderIndex? ns row.owner).isSome).mapM linkOf <;> rfl
    · rw [if_neg hsome, List.filter_cons_of_neg (by simpa using hsome)]
      exact ih ns

theorem length_foldl_attach (links : List (RelatedRow × Node)) (ns : List Node) :
    (links.foldl attach ns).length = ns.length := by
  induction links generalizing ns with
  | nil => rfl
  | cons link links ih => rw [List.foldl_cons, ih, length_attach]

/-- Every node gets the links that it is the first to own, in their order. -/
theorem getElem?_foldl_attach (links : List (RelatedRow × Node)) (ns : List Node) (i : Nat) :
    (links.foldl attach ns)[i]? = ns[i]?.map fun n =>
      (links.filter fun link => holderIndex? ns link.1.owner = some i).foldl join n := by
  induction links generalizing ns with
  | nil => exact Option.map_id'.symm
  | cons link links ih =>
    rw [List.foldl_cons, ih, getElem?_attach, Option.map_map]
    refine congrArg (ns[i]?.map ·) (funext fun n => ?_)
    simp only [holderIndex?_attach, Function.comp_apply]
    by_cases hfirst : holderIndex? ns link.1.owner = some i
    · rw [if_pos hfirst, List.filter_cons_of_pos (by simp [hfirst]), List.foldl_cons]
    · rw [if_neg hfirst, List.filter_cons_of_neg (by simp [hfirst])]

def owned (vertices : List Properties) (related : List RelatedRow) : List RelatedRow :=
  related.filter fun row => (ownerIndex? vertices row.owner).isSome

/-- The vertices are read first, then the related rows that one of them owns. -/
theorem nodes_eq (rows : List Row) : nodes rows =
    (vertexRows rows).mapM node >>= fun found =>
      (fun links => links.foldl attach found) <$>
        (owned (vertexRows rows) (relatedRows rows)).mapM linkOf := by
  rw [nodes]
  cases hfound : (vertexRows rows).mapM node with
  | error e => rfl
  | ok found =>
    refine (foldlM_linkToOwner (relatedRows rows) found).trans ?_
    have hread := (mapM_eq_ok_iff _ _ _).mp hfound
    simp only [holderIndex?_eq hread]
    rfl

theorem nodes_eq_of_rows_eq {rows others : List Row} (hvertex : vertexRows others = vertexRows rows)
    (howned : owned (vertexRows rows) (relatedRows others) =
      owned (vertexRows rows) (relatedRows rows)) : nodes others = nodes rows := by
  rw [nodes_eq, nodes_eq, hvertex, howned]

/-- Rows may come in any mixture. -/
theorem Mixed.nodes_eq {rows others : List Row}
    (h : Mixed (vertexRows rows) (relatedRows rows) others) : nodes others = nodes rows := by
  obtain ⟨hvertex, hrelated⟩ := h.rows_eq
  exact nodes_eq_of_rows_eq hvertex (by rw [hrelated])

/-- A related row that no vertex owns may be left out. -/
theorem nodes_eq_of_unowned {before after : List Row} {row : RelatedRow}
    (h : ownerIndex? (vertexRows (before ++ .related row :: after)) row.owner = none) :
    nodes (before ++ after) = nodes (before ++ .related row :: after) := by
  refine nodes_eq_of_rows_eq ?_ ?_
  · simp [vertexRows]
  · have hrelated : relatedRows (before ++ .related row :: after) =
        relatedRows before ++ row :: relatedRows after := by
      simp [relatedRows]
    have hleft : relatedRows (before ++ after) = relatedRows before ++ relatedRows after :=
      List.filterMap_append
    rw [hrelated, hleft, owned, owned, List.filter_append, List.filter_append,
      List.filter_cons_of_neg (by simp [h])]

/-- Rows are assembled when every vertex is read, and every related row that a vertex owns. -/
theorem exists_nodes_iff (rows : List Row) : (∃ ns, nodes rows = .ok ns) ↔
    (∀ properties ∈ vertexRows rows, ∃ n, node properties = .ok n) ∧
      ∀ row ∈ relatedRows rows, (ownerIndex? (vertexRows rows) row.owner).isSome →
        ∃ other, node row.vertex = .ok other := by
  have hlinks : (∃ links, (owned (vertexRows rows) (relatedRows rows)).mapM linkOf = .ok links) ↔
      ∀ row ∈ relatedRows rows, (ownerIndex? (vertexRows rows) row.owner).isSome →
        ∃ other, node row.vertex = .ok other := by
    simp [exists_mapM_iff, owned, linkOf]
  rw [← hlinks, ← exists_mapM_iff]
  simp only [nodes_eq, bind_eq_ok_iff, map_eq_ok_iff]
  constructor
  · rintro ⟨_, found, hfound, links, hlinks, _⟩
    exact ⟨⟨found, hfound⟩, links, hlinks⟩
  · rintro ⟨⟨found, hfound⟩, links, hlinks⟩
    exact ⟨_, found, hfound, links, hlinks, rfl⟩

/-! ## What a node gathers -/

/-- A vertex and the related rows that it is the first to own, in their order, as a node with
its links. -/
structure Gathers (rows : List Row) (i : Nat) (properties : Properties) (n : Node)
    (links : List (RelatedRow × Node)) : Prop where
  root : node properties = .ok { n with links := {} }
  rows : links.map (·.1) = (relatedRows rows).filter fun row =>
    ownerIndex? (vertexRows rows) row.owner = some i
  read : ∀ link ∈ links, node link.1.vertex = .ok link.2
  linkCount : n.linkCount = links.length
  linked : ∀ direction relation, n.linked direction relation =
    (links.filter fun link =>
      link.1.direction = direction ∧ link.1.edge.label = relation).map (·.2)

theorem mapM_linkOf_eq_ok_iff (rows : List RelatedRow) (links : List (RelatedRow × Node)) :
    rows.mapM linkOf = .ok links ↔
      links.map (·.1) = rows ∧ ∀ link ∈ links, node link.1.vertex = .ok link.2 := by
  rw [mapM_eq_ok_iff]
  constructor
  · intro h
    induction h with
    | nil => exact ⟨rfl, fun _ hm => absurd hm List.not_mem_nil⟩
    | cons hfirst _ ih =>
      obtain ⟨other, hother, rfl⟩ := (map_eq_ok_iff _ _ _).mp hfirst
      exact ⟨congrArg _ ih.1, List.forall_mem_cons.mpr ⟨hother, ih.2⟩⟩
  · rintro ⟨rfl, hread⟩
    rw [List.forall₂_map_left_iff, List.forall₂_same]
    exact fun link hm => (map_eq_ok_iff _ _ _).mpr ⟨link.2, hread link hm, rfl⟩

def tied (link : RelatedRow × Node) : Direction × String × Node :=
  (link.1.direction, link.1.edge.label, link.2)

theorem foldl_join (links : List (RelatedRow × Node)) (n : Node) :
    links.foldl join n = { n with links := n.links.addAll (links.map tied) } :=
  Node.foldl_addLink tied links n

theorem gathers_of_links {rows : List Row} {properties : Properties} {n : Node} {i : Nat}
    {links : List (RelatedRow × Node)} (hn : node properties = .ok n)
    (hrows : links.map (·.1) = (relatedRows rows).filter fun row =>
      ownerIndex? (vertexRows rows) row.owner = some i)
    (hread : ∀ link ∈ links, node link.1.vertex = .ok link.2) :
    Gathers rows i properties (links.foldl join n) links := by
  have hjoined : links.foldl join n = { n with links := Links.addAll {} (links.map tied) } := by
    rw [foldl_join, (node_leaf hn).unlinked]
  rw [hjoined]
  refine ⟨?_, hrows, hread, ?_, ?_⟩
  · rw [hn]
    exact congrArg Except.ok (Node.eq_of_unlinked (node_leaf hn).unlinked).symm
  · rw [Node.linkCount, Links.length_targets_addAll_empty, List.length_map]
  · intro direction relation
    rw [Node.linked, Links.get_addAll_empty, List.filter_map, List.map_map]
    rfl

theorem gathers_of_nodes {rows : List Row} {ns : List Node} (h : nodes rows = .ok ns) :
    ns.length = (vertexRows rows).length ∧
      ∀ i properties n, (vertexRows rows)[i]? = some properties → ns[i]? = some n →
        ∃ links, Gathers rows i properties n links := by
  rw [nodes_eq, bind_eq_ok_iff] at h
  obtain ⟨found, hfound, h⟩ := h
  obtain ⟨links, hlinks, rfl⟩ := (map_eq_ok_iff _ _ _).mp h
  have hfound := (mapM_eq_ok_iff _ _ _).mp hfound
  obtain ⟨hrows, hread⟩ := (mapM_linkOf_eq_ok_iff _ _).mp hlinks
  refine ⟨(length_foldl_attach links found).trans hfound.length_eq.symm, ?_⟩
  intro i properties n hproperties hn
  rw [getElem?_foldl_attach, Option.map_eq_some_iff] at hn
  obtain ⟨root, hroot, rfl⟩ := hn
  simp only [holderIndex?_eq hfound]
  refine ⟨_, gathers_of_links ?_ ?_ fun link hm => hread link (List.mem_of_mem_filter hm)⟩
  · obtain ⟨hi, rfl⟩ := List.getElem?_eq_some_iff.mp hproperties
    obtain ⟨hj, rfl⟩ := List.getElem?_eq_some_iff.mp hroot
    exact hfound.get hi hj
  · -- a row that this vertex owns is owned, so that its link is among those that were read
    have howned := congrArg (List.filter fun row =>
      decide (ownerIndex? (vertexRows rows) row.owner = some i)) hrows
    rw [List.filter_map, owned, List.filter_filter] at howned
    refine howned.trans (List.filter_congr fun row _ => ?_)
    cases ownerIndex? (vertexRows rows) row.owner <;> simp

/-- The rows of an answer may come in any mixture, and a related row that no vertex owns may be
left out. There is one node for every vertex row, in their order, and it gathers the related
rows that it is the first to own. -/
theorem nodes_gathered (rows : List Row) :
    (Mixed (vertexRows rows) (relatedRows rows) rows ∧
      ∀ others, Mixed (vertexRows rows) (relatedRows rows) others → nodes others = nodes rows) ∧
    (∀ before row after, rows = before ++ .related row :: after →
      ownerIndex? (vertexRows rows) row.owner = none → nodes (before ++ after) = nodes rows) ∧
    ((∃ ns, nodes rows = .ok ns) ↔
      (∀ properties ∈ vertexRows rows, ∃ n, node properties = .ok n) ∧
        ∀ row ∈ relatedRows rows, (ownerIndex? (vertexRows rows) row.owner).isSome →
          ∃ other, node row.vertex = .ok other) ∧
    ∀ ns, nodes rows = .ok ns → ns.length = (vertexRows rows).length ∧
      ∀ i properties n, (vertexRows rows)[i]? = some properties → ns[i]? = some n →
        ∃ links, Gathers rows i properties n links := by
  refine ⟨⟨mixed_rows rows, fun _ hmixed => hmixed.nodes_eq⟩, ?_, exists_nodes_iff rows,
    fun _ => gathers_of_nodes⟩
  rintro before row after rfl howner
  exact nodes_eq_of_unowned howner

/-- A bus that tows itself, listed twice behind the row that says so, and a row whose owner is
not listed and whose vertex cannot be read. -/
def towRows : List Row :=
  let bus : Properties := .ofList [("id", .string "device___a"), ("label", .string "bus::device")]
  let edge : EdgeRow := { id := "e1", label := "tows", head := "device___b" }
  [.related { owner := "device___a", direction := .outgoing, edge, vertex := bus },
    .vertex bus, .vertex bus,
    .related { owner := "device___z", direction := .outgoing, edge, vertex := .empty }]

example : (nodes towRows).toOption.map (·.map fun n => (n.linked .outgoing "tows").length) =
    some [1, 0] := by decide

end DeviceGraph.Assembly
