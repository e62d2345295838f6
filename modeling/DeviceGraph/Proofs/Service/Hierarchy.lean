import DeviceGraph.Proofs.Graph.Hierarchy
import DeviceGraph.Proofs.Service.Guard
import DeviceGraph.Proofs.Store.Keys

/-!
# The hierarchy of groups under the service

A group is created with the path of the group above it and with the edge to that group.
An update changes properties only, so it can take the path away from under the edge; and
edges of the same relation can be declared beside. Where neither happens, the stored
paths and the edges name the same groups, in every run.
-/

set_option autoImplicit false

namespace DeviceGraph

namespace Store
open Statement

/-- Reading labels leaves a graph as it is. -/
theorem apply_labels {vertexId : String} {s : Statement} (h : labelsStatement vertexId = .ok s)
    (g : Graph) : s.apply g = g := by
  obtain ⟨⟨t, root⟩, hv, h⟩ := (Checks.bind_eq_ok_iff _ _ _).mp h
  cases h
  rw [apply, scene_push, scene_push, scene, clauses_of_vertex hv]
  rfl

end Store

namespace Service
open Store (labelsOf)

def Idle (statements : List Statement) : Prop :=
  ∀ g : Graph, statements.foldl (fun g s => s.apply g) g = g

theorem idle_nil : Idle [] := fun _ => rfl

theorem submitted_of_requireLabels (id : Except DomainError String) {legacy : Bool}
    {missing : Missing} {e e₁ : Engine} {a : Unit}
    (h : requireLabels (labelsOf id legacy) missing e = (.ok a, e₁)) :
    ∃ looks, Idle looks ∧ e₁.submitted = e.submitted ++ looks := by
  rcases requireLabels_asks id legacy missing e with ⟨err, hrefused⟩ | hasked
  · rw [h] at hrefused
    cases hrefused
  · obtain ⟨vertexId, read, _, hread, hasks⟩ := hasked
    rw [h] at hread
    exact ⟨[read.1], fun g => Store.apply_labels hasks.statement g, hread.counts.1⟩

/-- Only what follows the looking makes a difference to a graph. -/
theorem graph_after_looks {α : Type} {w : World} {x : Session ServiceError α}
    {looks more : List Statement} (hlooks : Idle looks)
    (h : (x w.engine).2.submitted = w.engine.submitted ++ looks ++ more) :
    (w.after x).graph = more.foldl (fun g s => s.apply g) w.graph := by
  rw [List.append_assoc] at h
  rw [World.graph_after h, List.foldl_append, hlooks]

namespace Groups

theorem submitted_of_lookAbove {item : GroupItem} {legacy : Bool} {e e₁ : Engine} {a : Unit}
    (h : lookAbove item legacy e = (.ok a, e₁)) :
    ∃ looks, Idle looks ∧ e₁.submitted = e.submitted ++ looks := by
  rw [lookAbove] at h
  split at h
  · exact submitted_of_requireLabels (Identity.groupId item.parentPath) h
  · obtain ⟨_, rfl⟩ := (Session.pure_eq_ok_iff _ _ _ _).mp h
    exact ⟨[], idle_nil, (List.append_nil _).symm⟩

/-- A group that is created stands in the graph as its item says. -/
theorem hierarchical_create {item : GroupItem} {legacy : Bool} {w : World} {path : String}
    (h : (create item legacy w.engine).1 = .ok path) (hw : w.graph.Hierarchical)
    (hlinks : ∀ link ∈ item.groups.entries, link.2.1 ≠ parentRelation) :
    (w.after (create item legacy)).graph.Hierarchical := by
  obtain ⟨_, e₁, vertexId, habove, hrun⟩ := run_of_create (Prod.ext h rfl)
  obtain ⟨looks, hlooks, hlooked⟩ := submitted_of_lookAbove habove
  obtain ⟨s, hmade, hsubmitted⟩ := Store.Creation.made_of_run hrun
  rw [hlooked] at hsubmitted
  -- the statement places the group, and its links are none of the hierarchy
  obtain ⟨hid, labels, edgeId, parentId?, ds, hparent, hds, hacts⟩ :=
    Store.Groups.acts_createStatement hmade
  obtain ⟨τ, rfl, happly⟩ := hacts.apply rfl w.graph
  rw [graph_after_looks hlooks hsubmitted, List.foldl_cons, List.foldl_nil, happly]
  refine (Store.Groups.hierarchical_place hw hid hparent labels edgeId).links
    (Scene.links_drawAll "v" _ hds fun link hm => ?_)
  obtain ⟨declaration, hdeclared, rfl⟩ := List.mem_map.mp hm
  exact hlinks declaration hdeclared

/-- An update that succeeds changes the groups with the path of its item. -/
theorem graph_of_update {item : GroupItem} {legacy : Bool} {w : World} {a : Unit}
    (h : (update item legacy w.engine).1 = .ok a) :
    ∃ id, Identity.groupId item.path = .ok id ∧ (w.after (update item legacy)).graph =
      w.graph.modify (w.graph.find Category.group.label (.string id))
        (·.merge (.ofDict (Store.writable item.toNode.attributes))) := by
  have hrun : update item legacy w.engine = (.ok a, (update item legacy w.engine).2) :=
    Prod.ext h rfl
  obtain ⟨_, e₀, hfirst, hrun⟩ := (Session.bind_eq_ok_iff _ _ _ _ _).mp hrun
  obtain ⟨_, rfl⟩ := (Session.ofExcept_eq_ok_iff _ _ _ _).mp hfirst
  obtain ⟨_, e₁, hguard, hrun⟩ := (Session.bind_eq_ok_iff _ _ _ _ _).mp hrun
  obtain ⟨looks, hlooks, hlooked⟩ := submitted_of_requireLabels (Identity.groupId item.path) hguard
  have hupdate := (inStore_eq_ok_iff _ _ _ _).mp hrun
  obtain ⟨id, statement, hid, hstatement, hsubmitted⟩ :=
    Store.Update.statement_of_run (u := .group item.toNode) (congrArg Prod.fst hupdate)
  have hsame : ((Store.Update.group item.toNode).run e₁).2 = (update item legacy w.engine).2 :=
    congrArg Prod.snd hupdate
  rw [hsame, hlooked] at hsubmitted
  refine ⟨id, hid, ?_⟩
  rw [graph_after_looks hlooks hsubmitted]
  exact Store.Update.apply_statement hid hstatement w.graph

end Groups

inductive GroupChange
  | create (item : GroupItem) (legacy : Bool)
  | update (item : GroupItem) (legacy : Bool)

namespace GroupChange

def run : GroupChange → Session ServiceError Unit
  | create item legacy => do
    let _ ← Groups.create item legacy
  | update item legacy => Groups.update item legacy

def OutsideHierarchy : GroupChange → Prop
  | create item _ => ∀ link ∈ item.groups.entries, link.2.1 ≠ parentRelation
  | update .. => True

/-- An update names no group above, or the very one that is stored, for each group that it
finds; the group on top may name what it likes. -/
def KeepsAbove : GroupChange → Graph → Prop
  | create .., _ => True
  | update item _, g => item.path ≠ Store.Groups.rootPath →
    ∀ value, item.toNode.attributes.get? Store.Groups.parentProperty = some value →
      ∀ v ∈ g.vertices, v.isGroup item.path = true →
        namedPath? (some value) = v.properties.parentPath?

theorem parentPath?_merge (properties : Properties) (attributes : Dict Json) :
    Properties.parentPath? (properties.merge (.ofDict (Store.writable attributes))) =
      match attributes.get? Store.Groups.parentProperty with
      | some value => namedPath? (some value)
      | none => properties.parentPath? := by
  have hreserved : isReserved Store.Groups.parentProperty = false := by decide
  rw [Properties.parentPath?, Store.get?_merge_writable, if_neg (by simp [hreserved])]
  cases attributes.get? Store.Groups.parentProperty with
  | none => rfl
  | some value => cases value <;> rfl

theorem hierarchical_update_iff {item : GroupItem} {legacy : Bool} {w : World} {a : Unit}
    (h : ((update item legacy).run w.engine).1 = .ok a) (hw : w.graph.Hierarchical) :
    (w.after (update item legacy).run).graph.Hierarchical ↔
      (update item legacy).KeepsAbove w.graph := by
  obtain ⟨id, hid, hgraph⟩ := Groups.graph_of_update h
  have hchange : ∀ p : Properties, (p.merge (.ofDict (Store.writable
      item.toNode.attributes))).get? idProperty = p.get? idProperty :=
    fun p => by rw [Store.get?_merge_writable, if_pos (by decide)]
  have hafter : (w.after (update item legacy).run).graph = _ := hgraph
  rw [hafter, hw.modify_iff hchange hid, KeepsAbove]
  refine imp_congr_right fun _ => ?_
  simp only [parentPath?_merge]
  cases item.toNode.attributes.get? Store.Groups.parentProperty <;> simp

theorem hierarchical_of_create {item : GroupItem} {legacy : Bool} {w : World} {a : Unit}
    (h : ((create item legacy).run w.engine).1 = .ok a) (hw : w.graph.Hierarchical)
    (hlinks : (create item legacy).OutsideHierarchy) :
    (w.after (create item legacy).run).graph.Hierarchical := by
  have hrun : (create item legacy).run w.engine = (.ok a, ((create item legacy).run w.engine).2) :=
    Prod.ext h rfl
  obtain ⟨path, e₁, hcreate, hpure⟩ := (Session.bind_eq_ok_iff _ _ _ _ _).mp hrun
  obtain ⟨_, hsame⟩ := (Session.pure_eq_ok_iff _ _ _ _).mp hpure
  have hafter : w.after (create item legacy).run = w.after (Groups.create item legacy) := by
    rw [World.after, World.after, ← hsame, hcreate]
  rw [hafter]
  exact Groups.hierarchical_create (congrArg Prod.fst hcreate) hw hlinks

/-- Throughout a run that succeeds, and that declares no edges of the hierarchy, each group
below the top has one edge to a group above exactly if it stores the path of that group, and
the edge leads there, exactly if no update gives another path to a group that it finds. -/
theorem hierarchy_kept_iff (changes : List GroupChange) (w : World) (hw : w.graph.Hierarchical)
    (hlinks : ∀ change ∈ changes, change.OutsideHierarchy) (hok : Succeeds run changes w) :
    (∀ ep ∈ episodes run changes w, (ep.before.after ep.op.run).graph.Hierarchical) ↔
      ∀ ep ∈ episodes run changes w, ep.op.KeepsAbove ep.before.graph := by
  refine invariant_iff_of_step (fun change hm w hw hok => ?_) hw hok
  obtain ⟨a, ha⟩ := hok
  cases change with
  | create item legacy =>
    exact iff_of_true (hierarchical_of_create ha hw (hlinks _ hm)) trivial
  | update item legacy => exact hierarchical_update_iff ha hw

/-- The engine for a run whose operations each look for something but for the first, which
creates a group that has no group above. -/
def regionWorld : World where
  engine := { replies := [.rows [], .rows [.object [("chain", .string "region::group")]],
    .rows [], .rows [.object [("chain", .string "region::group")]], .rows []] }

def euItem : GroupItem where
  groupPath := "/eu"
  templateId := "region"

def described : List GroupChange :=
  [create euItem true, create northItem true,
    update { northItem with description := some "cold" } true]

theorem hierarchy_kept_described : Succeeds run described regionWorld ∧
    (∀ ep ∈ episodes run described regionWorld, ep.op.KeepsAbove ep.before.graph) ∧
    ∀ ep ∈ episodes run described regionWorld,
      (ep.before.after ep.op.run).graph.Hierarchical := by
  have hok : Succeeds run described regionWorld :=
    List.forall_mem_cons.mpr ⟨⟨(), rfl⟩, List.forall_mem_cons.mpr ⟨⟨(), rfl⟩,
      List.forall_mem_singleton.mpr ⟨(), rfl⟩⟩⟩
  have hkeeps : ∀ ep ∈ episodes run described regionWorld,
      ep.op.KeepsAbove ep.before.graph := by
    refine List.forall_mem_cons.mpr ⟨trivial, List.forall_mem_cons.mpr ⟨trivial,
      List.forall_mem_singleton.mpr ?_⟩⟩
    intro _ value hvalue
    cases hvalue
    decide
  have hempty : regionWorld.graph.Hierarchical :=
    ⟨fun _ he => absurd he List.not_mem_nil, fun _ _ _ hv => nomatch hv⟩
  have hlinks : ∀ change ∈ described, change.OutsideHierarchy := by
    refine List.forall_mem_cons.mpr ⟨?_, List.forall_mem_cons.mpr ⟨?_,
      List.forall_mem_singleton.mpr trivial⟩⟩ <;> exact fun _ hm => absurd hm List.not_mem_nil
  exact ⟨hok, hkeeps, (hierarchy_kept_iff described regionWorld hempty hlinks hok).mpr hkeeps⟩

/-- The stored paths and the edges agree, for the group on top too. -/
def Agreeing (g : Graph) : Prop :=
  ∀ n v path, g.vertices[n]? = some v → v.isGroup path = true → g.Above n v.properties.parentPath?

def topped : List GroupChange :=
  [create { groupPath := "/", templateId := "region", parentPath := "/x" } true]

def moved : List GroupChange :=
  [create euItem true, create northItem true,
    update { northItem with groupPath := "/eu/north", parentPath := "/z" } true]

def declared : List GroupChange :=
  [create euItem true,
    create { groupPath := "/x", templateId := "region",
             groups := Relations.empty.add .outgoing parentRelation "/eu" } true]

def outline (g : Graph) : List (Option String × List Nat) :=
  g.vertices.mapIdx fun n v => (v.properties.parentPath?, (g.parentEdges n).map (·.head))

def outlines (changes : List GroupChange) (w : World) : List (List (Option String × List Nat)) :=
  (episodes run changes w).map fun ep => outline (ep.before.after ep.op.run).graph

def toppedWorld : World where
  engine := Guarded.labelledEngine "region::group"

theorem hierarchy_broken :
    (Succeeds run topped toppedWorld ∧
      outlines topped toppedWorld = [[(some "/x", [])]] ∧
      ¬ ∀ ep ∈ episodes run topped toppedWorld, Agreeing (ep.before.after ep.op.run).graph) ∧
    (Succeeds run moved regionWorld ∧
      outlines moved regionWorld = [[(none, [])], [(none, []), (some "/eu", [0])],
        [(none, []), (some "/z", [0])]] ∧
      ¬ ∀ ep ∈ episodes run moved regionWorld, Agreeing (ep.before.after ep.op.run).graph) ∧
    Succeeds run declared {} ∧
      outlines declared {} = [[(none, [])], [(none, []), (none, [0])]] ∧
      ¬ ∀ ep ∈ episodes run declared {}, Agreeing (ep.before.after ep.op.run).graph := by
  refine ⟨⟨?_, by decide, fun h => ?_⟩, ⟨?_, by decide, fun h => ?_⟩, ?_, by decide, fun h => ?_⟩
  · exact List.forall_mem_singleton.mpr ⟨(), rfl⟩
  · have hagree := List.forall_mem_singleton.mp h
    exact absurd (hagree 0 _ "/" rfl (by decide)) (by decide)
  · exact List.forall_mem_cons.mpr ⟨⟨(), rfl⟩, List.forall_mem_cons.mpr ⟨⟨(), rfl⟩,
      List.forall_mem_singleton.mpr ⟨(), rfl⟩⟩⟩
  · have hagree := h _ (List.mem_cons_of_mem _ (List.mem_cons_of_mem _ List.mem_cons_self))
    exact absurd (hagree 1 _ "/eu/north" rfl (by decide)) (by decide)
  · exact List.forall_mem_cons.mpr ⟨⟨(), rfl⟩, List.forall_mem_singleton.mpr ⟨(), rfl⟩⟩
  · have hagree := h _ (List.mem_cons_of_mem _ List.mem_cons_self)
    exact absurd (hagree 1 _ "/x" rfl (by decide)) (by decide)

end GroupChange

end Service

end DeviceGraph
