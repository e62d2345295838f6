import DeviceGraph.Proofs.Assembly.Surroundings
import DeviceGraph.Proofs.Graph.Attaching
import DeviceGraph.Proofs.Graph.Declared

/-!
# Directions as written and as read

An edge that an entity is given in a direction is linked under that direction when the entity
is read with its surroundings, and under the opposite direction when the other end is. This
holds of edges that are attached and of edges that are declared at a creation, and detaching
deletes such edges and no others. Statements are run here clause by clause, and their clauses are
the lines of what is submitted.
-/

set_option autoImplicit false

namespace DeviceGraph

namespace Assembly
open Checks

def rowSeen (id entity relation : String) (direction : Direction) (other : String) : EdgeRow :=
  match direction with
  | .incoming => ⟨id, relation, entity, other⟩
  | _ => ⟨id, relation, other, entity⟩

theorem heading_rowSeen (id relation : String) {entity other : String} {direction : Direction}
    (hne : entity ≠ other) (hd : direction ≠ .both) :
    heading entity (rowSeen id entity relation direction other) = direction := by
  cases direction with
  | incoming => exact if_pos rfl
  | outgoing => exact if_neg hne.symm
  | both => exact absurd rfl hd

/-- With an edge and the record of an entity around it, a node is linked to that entity under
a direction and a relation, and to nothing else if there is no other edge. -/
def LinksUnder (row : EdgeRow) (own : String) (direction : Direction) (relation other : String) :
    Prop :=
  ∀ (n o : Node) (record : Properties) (around : Projection), n.vertexId = some own →
    node record = .ok o → o.vertexId = some other → Consistent around →
    Reaches around row record →
      (∀ m, linkSurroundings n around = .ok m → o ∈ m.linked direction relation) ∧
      ((∀ edge ∈ around.edges, edge = row) →
        linkSurroundings n around = .ok (n.addLink direction relation o))

/-- A projection that lists one edge has one hop at most. -/
theorem hopsOf_single {around : Projection} (h : Consistent around) {row : EdgeRow}
    {record : Properties} (hreach : Reaches around row record)
    (hall : ∀ edge ∈ around.edges, edge = row) : hopsOf around = [(row, record)] := by
  have hmem := (mem_hopsOf_iff h row record).mpr hreach
  have hids := nodup_ids_hopsOf h
  have hrow : ∀ hop ∈ hopsOf around, hop.1 = row := by
    intro hop hm
    obtain ⟨path, _, ⟨hedge, _⟩, _⟩ := (mem_hopsOf_iff h hop.1 hop.2).mp hm
    exact hall hop.1 hedge
  match hhops : hopsOf around with
  | [] =>
    rw [hhops] at hmem
    cases hmem
  | [hop] =>
    rw [hhops, List.mem_singleton] at hmem
    rw [hmem]
  | first :: second :: rest =>
    rw [hhops] at hids hrow
    have hsame : first.1.id = second.1.id := by rw [hrow first (by simp), hrow second (by simp)]
    simp [hsame] at hids

theorem linksUnder_of_heading {row : EdgeRow} {own : String} {direction : Direction}
    (hd : heading own row = direction) (other : String) :
    LinksUnder row own direction row.label other := by
  intro n o record around hown hnode _ hc hreach
  have hadded : added (n.vertexId.getD "") (row, o) = (direction, row.label, o) := by
    rw [added, hown, Option.getD_some, hd]
  constructor
  · intro m hm
    rw [linkSurroundings_eq hc, map_eq_ok_iff] at hm
    obtain ⟨links, hlinks, rfl⟩ := hm
    have hlinked := mapM_linkOfHop_eq_ok_iff.mp hlinks
    have hlink : (row, o) ∈ links :=
      (hlinked.mem_iff row o).mpr ⟨record, (mem_hopsOf_iff hc row record).mpr hreach, hnode⟩
    rw [Node.linked, Links.get_addAll, List.mem_append]
    refine .inr (List.mem_map.mpr ⟨(direction, row.label, o), List.mem_filter.mpr ⟨?_, by simp⟩, rfl⟩)
    exact List.mem_map.mpr ⟨(row, o), hlink, hadded⟩
  · intro hall
    have hlinked : Linked (hopsOf around) [(row, o)] := by
      rw [hopsOf_single hc hreach hall]
      exact .cons ⟨rfl, hnode⟩ .nil
    have hone : n.links.addAll ([(row, o)].map (added (n.vertexId.getD ""))) =
        n.links.add direction row.label o := by
      rw [List.map_singleton, hadded]
      rfl
    rw [linkSurroundings_eq hc, mapM_linkOfHop_eq_ok_iff.mpr hlinked]
    exact congrArg (fun links => Except.ok { n with links }) hone

end Assembly

namespace Graph

def projected (g : Graph) (e : Edge) : Json :=
  .object [("id", e.id), ("label", .string e.relation), ("inV", (g.idAt e.head).getD .null),
    ("outV", (g.idAt e.origin).getD .null)]

variable {g : Graph} {entity relation other : String} {direction : Direction} {e : Edge}

theorem ofJson?_projected (hr : g.Runs entity relation direction other e) {id : String}
    (hid : e.id = .string id) :
    EdgeRow.ofJson? (g.projected e) = some (Assembly.rowSeen id entity relation direction other) := by
  obtain ⟨hrelation, hentity, hother⟩ := hr.ends
  let row := Assembly.rowSeen id entity relation direction other
  have hhead : g.idAt e.head = some (.string row.head) := by
    cases direction with
    | incoming => exact hentity
    | outgoing => exact hother
    | both => exact hother
  have horigin : g.idAt e.origin = some (.string row.origin) := by
    cases direction with
    | incoming => exact hother
    | outgoing => exact hentity
    | both => exact hentity
  rw [projected, hhead, horigin, hid, hrelation]
  cases direction <;> rfl

/-- An edge is projected to a row that links the other end under the direction, and the entity
itself, when the other end is read, under the opposite direction. -/
def ReadsBack (g : Graph) (entity relation : String) (direction : Direction) (other : String)
    (e : Edge) : Prop :=
  ∃ row, EdgeRow.ofJson? (g.projected e) = some row ∧
    Assembly.LinksUnder row entity direction relation other ∧
    Assembly.LinksUnder row other direction.opposite relation entity

theorem Runs.linksUnder (hne : entity ≠ other) (hd : direction ≠ .both)
    (hr : g.Runs entity relation direction other e) {id : String} (hid : e.id = .string id)
    {row : EdgeRow} (hrow : EdgeRow.ofJson? (g.projected e) = some row) :
    Assembly.LinksUnder row entity direction relation other := by
  obtain rfl := Option.some.inj ((ofJson?_projected hr hid).symm.trans hrow)
  have hlabel : (Assembly.rowSeen id entity relation direction other).label = relation := by
    cases direction <;> rfl
  have hlinks := Assembly.linksUnder_of_heading (Assembly.heading_rowSeen id relation hne hd) other
  rwa [hlabel] at hlinks

theorem Runs.readsBack (hne : entity ≠ other) (hd : direction ≠ .both)
    (hr : g.Runs entity relation direction other e) {id : String} (hid : e.id = .string id) :
    g.ReadsBack entity relation direction other e := by
  have hrow := ofJson?_projected hr hid
  -- for the other end the same edge runs the opposite way
  have hback := (hr.opposite hd).linksUnder hne.symm (Direction.opposite_ne_both hd) hid hrow
  exact ⟨_, hrow, hr.linksUnder hne hd hid hrow, hback⟩

end Graph

namespace Store
open Statement

theorem Creation.directed (c : Creation) : ∀ link ∈ c.declared, link.direction ≠ .both := by
  have hdeclared : ∀ encode (r : Relations), ∀ link ∈ Statement.declared encode r.entries,
      link.direction ≠ .both := by
    intro encode r link hm
    obtain ⟨entry, hentry, rfl⟩ := List.mem_map.mp hm
    exact Relations.directed_of_mem_entries hentry
  cases c with
  | device node groups devices components =>
    intro link hm
    exact (List.mem_append.mp hm).elim (hdeclared _ groups link) (hdeclared _ devices link)
  | component owner node => exact fun link hm => absurd hm List.not_mem_nil
  | group node groups => exact hdeclared _ groups

/-- What is drawn for a declared relation of an entity: from each of its places one edge to every
vertex of the other end, all of them in the declared direction. -/
def DrawnFor (g : Graph) (entity : String) (places : List Nat) (link : Declared)
    (block : List Edge) : Prop :=
  g.Draws places link block ∧ link.direction ≠ .both ∧ ∃ other, link.target = .ok other ∧
    ∀ e ∈ block, g.Runs entity link.relation link.direction other e ∧ ∃ id, e.id = .string id

theorem drawn_of_make {c : Creation} {ids : EdgeIds} {entity : String} {s : Statement}
    (h : c.make ids = .ok (entity, s)) (g : Graph) :
    ∃ first blocks places, (s.apply g).edges = g.edges ++ first ++ blocks.flatten ∧
      (∀ n ∈ places, (s.apply g).idAt n = some (.string entity)) ∧
      (places = [] → s.apply g = g) ∧
      List.Forall₂ (DrawnFor (s.apply g) entity places) c.declared blocks := by
  obtain ⟨first, blocks, places, hedges, hnamed, hidle, hdraws⟩ := c.draws_of_make h g
  refine ⟨first, blocks, places, hedges, hnamed, hidle, ?_⟩
  refine ((List.forall₂_and_left _ _).mpr ⟨c.directed, hdraws⟩).imp fun link block hlink => ?_
  obtain ⟨hdirected, hdraw⟩ := hlink
  have ⟨other, _, htarget, _⟩ := hdraw
  exact ⟨hdraw, hdirected, other, htarget, fun e he => hdraw.runs hnamed htarget he⟩

structure DirectionAgrees (entity relation : String) (direction : Direction) (other : String) :
    Prop where
  /-- An edge comes from the entity if it goes out, and is read as it runs at both of its ends. -/
  read : ∀ (g : Graph) (e : Edge), g.Runs entity relation direction other e →
    (g.idAt e.origin = some (.string entity) ↔ direction = .outgoing) ∧
    ∀ id, e.id = .string id → g.ReadsBack entity relation direction other e
  /-- To attach is to write one such edge between every two vertices with the ids. -/
  attached : ∀ ids s, attachStatement ids entity relation direction other = .ok s →
    ∀ g : Graph, ∃ block, s.apply g = ⟨g.vertices, g.edges ++ block⟩ ∧
      block.length = (g.located entity).length * (g.located other).length ∧
      ∀ e ∈ block, (s.apply g).Runs entity relation direction other e ∧ ∃ id, e.id = .string id
  /-- A creation writes such edges for each declared relation. -/
  declared : ∀ (c : Creation) ids s, c.make ids = .ok (entity, s) → ∀ g : Graph,
    ∃ first blocks places, (s.apply g).edges = g.edges ++ first ++ blocks.flatten ∧
      (∀ n ∈ places, (s.apply g).idAt n = some (.string entity)) ∧
      (places = [] → s.apply g = g) ∧
      List.Forall₂ (DrawnFor (s.apply g) entity places) c.declared blocks
  /-- From the other end the same is attached in the opposite direction. -/
  reversed : attach other relation direction.opposite entity =
      attach entity relation direction other ∧
    ∀ ids ids' s t, attachStatement ids entity relation direction other = .ok s →
      attachStatement ids' other relation direction.opposite entity = .ok t →
      t.access = s.access ∧ t.clauses = s.clauses ∧
        ∃ id, t.params = s.params.insert "edge_id" (.string id)
  /-- To detach is to look for the same ends and the same relation. -/
  detached : ∀ ids s t, attachStatement ids entity relation direction other = .ok s →
    detachStatement entity relation direction other = .ok t →
    (∃ origin name head id,
      s.clauses = [.findVertices [origin, head],
        .createEdge ⟨origin.var, name, "edge_id", head.var⟩] ∧
      t.clauses = [.findEdges origin name head, .deleteEdges] ∧
      s.params = t.params.insert "edge_id" (.string id)) ∧
    ∀ (g : Graph) (e : Edge), t.Deletes g e ↔ e ∈ g.edges ∧
      ∃ n ∈ g.located entity, ∃ m ∈ g.located other, e.Joins n relation direction m
  /-- Both can be done whenever the ids can be decoded and the relation has a name. -/
  possible : ∀ ids, ((∃ s, attachStatement ids entity relation direction other = .ok s) ↔
      (∃ address, Identity.decode entity = .ok address) ∧
      (∃ address, Identity.decode other = .ok address) ∧ relation ≠ "") ∧
    ((∃ t, detachStatement entity relation direction other = .ok t) ↔
      ∃ s, attachStatement ids entity relation direction other = .ok s)

/-- A direction means the same where an edge is written and where it is read. -/
theorem direction_agrees {entity other : String} (hne : entity ≠ other) {direction : Direction}
    (hd : direction ≠ .both) (relation : String) :
    DirectionAgrees entity relation direction other where
  read := fun g e hr => ⟨hr.origin_iff hne hd, fun id hid => hr.readsBack hne hd hid⟩
  attached := by
    intro ids s h g
    obtain ⟨block, happly, hdraws, hlength⟩ := apply_attach h g
    refine ⟨block, happly, hlength, fun e he => ?_⟩
    obtain ⟨hr, hid⟩ := hdraws.runs (fun n hn => Graph.idAt_of_mem_located hn) rfl he
    exact ⟨hr.of_vertices_eq (h := s.apply g) (by rw [happly]), hid⟩
  declared := fun c ids s h g => drawn_of_make h g
  reversed := by
    refine ⟨attach_opposite entity relation direction other, fun ids ids' s t h h' => ?_⟩
    rw [attachStatement_opposite] at h'
    exact attach_alike h h'
  detached := fun ids s t h h' => ⟨clauses_attach_detach h h', deletes_detach_iff h'⟩
  possible := by
    intro ids
    rw [attachStatement_eq, detachStatement_eq, exists_betweenEnds_iff hd,
      exists_betweenEnds_iff hd]
    exact ⟨Iff.rfl, Iff.rfl⟩

def busRecord (id : String) : Properties :=
  .ofList [("id", .string id), ("label", .string "bus::device")]

def yard : Graph where
  vertices := [⟨["device"], busRecord "device___a"⟩, ⟨["device"], busRecord "device___b"⟩]

def around (row : EdgeRow) (id : String) : Projection where
  object := .empty
  paths := [⟨row.id, id⟩]
  edges := [row]
  vertices := [busRecord id]

theorem consistent_around (row : EdgeRow) (id : String) : Assembly.Consistent (around row id) where
  edges := by simp [around]
  vertices := by simp [around]
  paths := by simp [around, Assembly.pathsOf]

theorem reaches_around (row : EdgeRow) (id : String) :
    Assembly.Reaches (around row id) row (busRecord id) := by
  have hget : (busRecord id).get? idProperty = some (.string id) := by
    simp [busRecord, Dict.ofList, Dict.get?_insert, idProperty]
  have hid : Assembly.stringProperty? (busRecord id) idProperty = some id := by
    rw [Assembly.stringProperty?, hget]
    rfl
  simp [Assembly.Reaches, around, Assembly.pathsOf, hid]

/-- A bus that another one tows: the edge comes from the other bus, and the link comes in. -/
theorem direction_agrees_tows :
    "device___a" ≠ "device___b" ∧ Direction.incoming ≠ .both ∧
      ∃ s e row a b,
        attachStatement (numbered "e") "device___a" "tows" .incoming "device___b" = .ok s ∧
        (s.apply yard).edges = [e] ∧ (s.apply yard).idAt e.origin ≠ some (.string "device___a") ∧
        EdgeRow.ofJson? ((s.apply yard).projected e) = some row ∧
        Assembly.node (busRecord "device___a") = .ok a ∧
        Assembly.node (busRecord "device___b") = .ok b ∧
        Assembly.linkSurroundings a (around row "device___b") = .ok (a.addLink .incoming "tows" b) ∧
        Assembly.linkSurroundings b (around row "device___a") =
          .ok (b.addLink .outgoing "tows" a) := by
  have hne : "device___a" ≠ "device___b" := by decide
  have hd : Direction.incoming ≠ .both := by decide
  have h := direction_agrees hne hd "tows"
  obtain ⟨s, hs⟩ := ((h.possible (numbered "e")).1).mpr ⟨⟨_, rfl⟩, ⟨_, rfl⟩, by decide⟩
  obtain ⟨block, happly, hlength, hblock⟩ := h.attached _ s hs yard
  have hone : (yard.located "device___a").length * (yard.located "device___b").length = 1 := rfl
  obtain ⟨e, rfl⟩ := List.length_eq_one_iff.mp (hlength.trans hone)
  obtain ⟨hr, id, hid⟩ := hblock e (List.mem_singleton_self e)
  obtain ⟨horigin, hread⟩ := h.read _ e hr
  obtain ⟨row, hrow, hfrom, hback⟩ := hread id hid
  obtain ⟨a, ha, hida⟩ : ∃ a, Assembly.node (busRecord "device___a") = .ok a ∧
      a.vertexId = some "device___a" := ⟨_, rfl, rfl⟩
  obtain ⟨b, hb, hidb⟩ : ∃ b, Assembly.node (busRecord "device___b") = .ok b ∧
      b.vertexId = some "device___b" := ⟨_, rfl, rfl⟩
  have hlinked := hfrom a b _ _ hida hb hidb (consistent_around row _) (reaches_around row _)
  have hlinkedBack := hback b a _ _ hidb ha hida (consistent_around row _) (reaches_around row _)
  have hall : ∀ id, ∀ edge ∈ (around row id).edges, edge = row :=
    fun _ _ hm => List.mem_singleton.mp hm
  refine ⟨hne, hd, s, e, row, a, b, hs, by rw [happly]; rfl, ?_, hrow, ha, hb,
    hlinked.2 (hall _), hlinkedBack.2 (hall _)⟩
  exact fun hat => absurd (horigin.mp hat) (by decide)

end Store

end DeviceGraph
