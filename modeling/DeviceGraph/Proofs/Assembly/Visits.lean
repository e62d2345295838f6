import DeviceGraph.Proofs.Assembly.Hops
import DeviceGraph.Proofs.Assembly.Rows

/-!
# What is visited in an answer

Every form of an answer is read by visiting its vertices in some order, and a reading fails
as the first visit does that fails. So it is enough to know what is visited: a reading ends
at a short type chain exactly when the first vertex that cannot be read has an id that can
be decoded and a chain of fewer than two types.
-/

set_option autoImplicit false

namespace DeviceGraph

namespace Identity

theorem malformed_of_decode {id : String} {e : DomainError} (h : decode id = .error e) :
    ∃ fault, e = .malformedIdentity fault := by
  unfold decode at h
  dsimp only at h
  split at h
  · exact ⟨_, (Except.error.inj h).symm⟩
  · split at h
    · cases h
    · exact ⟨_, (Except.error.inj h).symm⟩

end Identity

namespace Assembly
open Checks

/-! ## Short chains -/

structure ShortChain (properties : Properties) (id : String) : Prop where
  named : stringProperty? properties idProperty = some id
  decodes : ∃ category keys, Identity.decode id = .ok (category, keys)
  short : (typesOf properties).length < 2

theorem node_of_shortChain {properties : Properties} {id : String}
    (h : ShortChain properties id) :
    node properties = .error (.domain (.invalidLabels id (typesOf properties))) := by
  obtain ⟨category, keys, hdecode⟩ := h.decodes
  have hshort := h.short
  rw [typesOf] at hshort ⊢
  rw [node.eq_def, h.named]
  simp only [hdecode, liftDomain]
  exact if_pos hshort

/-- A vertex is refused for its types exactly when its chain is short. -/
theorem node_eq_invalidLabels_iff (properties : Properties) (id : String) (types : List String) :
    node properties = .error (.domain (.invalidLabels id types)) ↔
      ShortChain properties id ∧ typesOf properties = types := by
  constructor
  · intro h
    rw [node.eq_def] at h
    split at h
    · cases h
    · next vertexId hid =>
      cases hdecode : Identity.decode vertexId with
      | error e =>
        obtain ⟨fault, rfl⟩ := Identity.malformed_of_decode hdecode
        rw [hdecode] at h
        cases h
      | ok found =>
        rw [hdecode] at h
        by_cases hshort : (typesOf properties).length < 2
        · rw [typesOf] at hshort
          have herr := (if_pos hshort).symm.trans h
          cases herr
          exact ⟨⟨hid, ⟨_, _, hdecode⟩, hshort⟩, rfl⟩
        · rw [typesOf] at hshort
          have herr := (if_neg hshort).symm.trans h
          cases herr
  · rintro ⟨h, rfl⟩
    exact node_of_shortChain h

/-! ## Visits -/

inductive Visit
  | malformed
  | vertex (properties : Properties)

def Visit.check : Visit → Except GraphError Unit
  | malformed => .error (.unreadable .malformed)
  | vertex properties => (fun _ => ()) <$> node properties

theorem Visit.check_eq_invalidLabels_iff (visit : Visit) (id : String) (types : List String) :
    visit.check = .error (.domain (.invalidLabels id types)) ↔
      ∃ properties, visit = .vertex properties ∧ ShortChain properties id ∧
        typesOf properties = types := by
  cases visit with
  | malformed =>
    constructor
    · intro h
      cases h
    · rintro ⟨_, hvisit, _⟩
      cases hvisit
  | vertex properties =>
    rw [check, map_eq_error_iff, node_eq_invalidLabels_iff]
    constructor
    · exact fun h => ⟨properties, rfl, h⟩
    · rintro ⟨_, hvisit, h⟩
      cases hvisit
      exact h

variable {α β γ : Type} {x : Except GraphError α} {visits more : List Visit}

/-- A reading that is done when all visits pass, and fails as the first one that does not. -/
def Follows (x : Except GraphError α) (visits : List Visit) : Prop :=
  (fun _ => ()) <$> x = forM visits Visit.check

namespace Follows

theorem ok (a : α) : Follows (.ok a) [] := rfl

theorem malformed : Follows (.error (.unreadable .malformed) : Except GraphError α) [.malformed] :=
  rfl

theorem vertex (properties : Properties) : Follows (node properties) [.vertex properties] := by
  rw [Follows, List.forM_cons, Visit.check]
  cases node properties <;> rfl

theorem map (h : Follows x visits) (f : α → β) : Follows (f <$> x) visits := by
  rw [Follows, ← (h : _ = forM visits Visit.check)]
  cases x <;> rfl

theorem bind {f : α → Except GraphError β} (h : Follows x visits)
    (hf : ∀ a, Follows (f a) more) : Follows (x >>= f) (visits ++ more) := by
  rw [Follows, List.forM_append, ← (h : _ = forM visits Visit.check)]
  cases x with
  | error e => rfl
  | ok a => exact hf a

theorem mapM {f : α → Except GraphError β} {visitsOf : α → List Visit}
    (h : ∀ a, Follows (f a) (visitsOf a)) (xs : List α) :
    Follows (xs.mapM f) (xs.flatMap visitsOf) := by
  induction xs with
  | nil => exact ok []
  | cons a xs ih =>
    rw [List.mapM_cons, List.flatMap_cons]
    exact (h a).bind fun b => ih.map (b :: ·)

end Follows

/-! ## Forms of answers -/

def decoded (value : Option β) (visitsOf : β → List Visit) : List Visit :=
  value.elim [.malformed] visitsOf

theorem Follows.readRow {read : Json → Option β} {f : β → Except GraphError α}
    {visitsOf : β → List Visit} (h : ∀ b, Follows (f b) (visitsOf b)) (row : Json) :
    Follows (readRow read row >>= f) (decoded (read row) visitsOf) := by
  rw [DeviceGraph.readRow]
  cases read row with
  | none => exact malformed
  | some b => exact h b

theorem mapM_readRow (read : Json → Option β) (rows : List Json) :
    rows.mapM (readRow read) =
      (rows.mapM read).elim (.error (.unreadable .malformed)) .ok := by
  induction rows with
  | nil => rfl
  | cons row rows ih =>
    rw [List.mapM_cons, List.mapM_cons, ih, readRow]
    cases read row with
    | none => rfl
    | some b => cases rows.mapM read <;> rfl

def rowVisits (row : Json) : List Visit := decoded row.dict? fun properties => [.vertex properties]

theorem follows_nodeOfRow (row : Json) : Follows (nodeOfRow row) (rowVisits row) :=
  .readRow Follows.vertex row

def surroundingVertices (row : Projection) : List Properties :=
  row.object :: ((unseen [] (pathsOf row)).filterMap (hop? row.edges row.vertices)).map (·.2)

def projectionVisits (row : Json) : List Visit :=
  decoded (Projection.ofJson? row) fun row => (surroundingVertices row).map .vertex

theorem follows_linkSurroundings (n : Node) (row : Projection) :
    Follows (linkSurroundings n row)
      (((unseen [] (pathsOf row)).filterMap (hop? row.edges row.vertices)).map
        fun hop => .vertex hop.2) := by
  have hlinks : linkSurroundings n row = _ :=
    (linkPaths_eq_unseen [] n).trans (foldlM_addHop n)
  rw [hlinks, List.map_eq_flatMap]
  exact (Follows.mapM (fun hop : EdgeRow × Properties => (Follows.vertex hop.2).map _) _).map _

theorem follows_projectionOfRow (row : Json) :
    Follows (projectionOfRow row) (projectionVisits row) := by
  refine .readRow (fun row => ?_) row
  rw [surroundingVertices, List.map_cons, List.map_map]
  exact (Follows.vertex row.object).bind (follows_linkSurroundings · row)

def taggedVertices (rows : List Row) : List Properties :=
  vertexRows rows ++ (owned (vertexRows rows) (relatedRows rows)).map (·.vertex)

/-- Tagged rows are all decoded before a vertex is visited. -/
def taggedVisits (rows : List Json) : List Visit :=
  decoded (rows.mapM Row.ofJson?) fun rows => (taggedVertices rows).map .vertex

theorem follows_nodes (rows : List Row) :
    Follows (nodes rows) ((taggedVertices rows).map .vertex) := by
  rw [nodes_eq, taggedVertices, List.map_append, List.map_map, List.map_eq_flatMap,
    List.map_eq_flatMap]
  exact (Follows.mapM Follows.vertex _).bind fun found =>
    (Follows.mapM (fun row : RelatedRow => (Follows.vertex row.vertex).map _) _).map _

theorem follows_tagged (rows : List Json) :
    Follows (rows.mapM (readRow Row.ofJson?) >>= nodes) (taggedVisits rows) := by
  rw [mapM_readRow, taggedVisits]
  cases rows.mapM Row.ofJson? with
  | none => exact .malformed
  | some rows => exact follows_nodes rows

end Assembly

end DeviceGraph
