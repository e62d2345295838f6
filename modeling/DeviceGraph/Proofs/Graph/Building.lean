import DeviceGraph.Proofs.Graph.Basic
import DeviceGraph.Proofs.Statement.Layout
import DeviceGraph.Proofs.Store.Changes
import DeviceGraph.Proofs.Store.Creation
import Mathlib.Data.List.Basic

/-!
# What the parts of a statement do to a graph

A statement grows part by part, and every part adds clauses that relate the scene
before them to the scene after them. The relation holds for whatever values the later
parts bind, as none of them takes a value back, so the relations of the parts compose.
-/

set_option autoImplicit false

namespace DeviceGraph

structure Drawing where
  other : String
  direction : Direction
  relation : String
  label : String
  id : String
  edgeId : String

def Drawing.origin (d : Drawing) (var : String) : String :=
  match d.direction with
  | .incoming => d.other
  | _ => var

def Drawing.head (d : Drawing) (var : String) : String :=
  match d.direction with
  | .incoming => var
  | _ => d.other

structure Drawing.Of (link : Declared) (d : Drawing) : Prop where
  direction : d.direction = link.direction
  relation : d.relation = link.relation
  target : link.target = .ok d.id
  label : ∃ category keys, Identity.decode d.id = .ok (category, keys) ∧ d.label = category.label
  other : ∃ n, d.other = Statement.numbered "o" n

namespace Scene

def seek (var : String) (σ : Scene) (d : Drawing) : Scene :=
  (σ.keep var).findOptional d.other d.label (.string d.id)

def draw (var : String) (σ : Scene) (d : Drawing) : Scene :=
  (σ.seek var d).link (d.origin var) d.relation (d.head var) (.string d.edgeId)

end Scene

def Scene.Adds (Kind : Properties → Prop) (σ τ : Scene) : Prop :=
  ∃ new, τ.graph.vertices = σ.graph.vertices ++ new ∧ ∀ v ∈ new, Kind v.properties

def Scene.Links (allowed : String → Prop) (σ τ : Scene) : Prop :=
  τ.graph.vertices = σ.graph.vertices ∧
    ∃ more, τ.graph.edges = σ.graph.edges ++ more ∧ ∀ e ∈ more, allowed e.relation

namespace Scene

variable {Kind : Properties → Prop} {allowed : String → Prop} {σ τ υ : Scene}

theorem Adds.refl (σ : Scene) : Adds Kind σ σ :=
  ⟨[], (List.append_nil _).symm, fun _ hm => absurd hm List.not_mem_nil⟩

theorem Adds.trans (h : Adds Kind σ τ) (g : Adds Kind τ υ) : Adds Kind σ υ := by
  obtain ⟨new, hnew, hkind⟩ := h
  obtain ⟨more, hmore, gkind⟩ := g
  refine ⟨new ++ more, by rw [hmore, hnew, List.append_assoc], fun v hv => ?_⟩
  exact (List.mem_append.mp hv).elim (hkind v) (gkind v)

theorem adds_create (σ : Scene) (var : String) {v : Vertex} (hv : Kind v.properties) :
    Adds Kind σ (σ.create var v) :=
  ⟨_, rfl, fun _ hm => (List.mem_replicate.mp hm).2 ▸ hv⟩

theorem adds_link (σ : Scene) (origin relation head : String) (id : Json) :
    Adds Kind σ (σ.link origin relation head id) := .refl σ

theorem Links.of_graph_eq (h : τ.graph = σ.graph) : Links allowed σ τ := by
  rw [Links, h]
  exact ⟨rfl, [], (List.append_nil _).symm, fun _ hm => absurd hm List.not_mem_nil⟩

@[simp] theorem graph_seek (var : String) (σ : Scene) (d : Drawing) :
    (σ.seek var d).graph = σ.graph := by
  rw [seek, findOptional]
  split <;> rfl

theorem Links.trans (h : Links allowed σ τ) (g : Links allowed τ υ) : Links allowed σ υ := by
  obtain ⟨hvertices, new, hnew, hallowed⟩ := h
  obtain ⟨gvertices, more, hmore, gallowed⟩ := g
  refine ⟨gvertices.trans hvertices, new ++ more, by rw [hmore, hnew, List.append_assoc], ?_⟩
  exact fun e he => (List.mem_append.mp he).elim (hallowed e) (gallowed e)

theorem links_link (σ : Scene) (origin head : String) {relation : String} (id : Json)
    (h : allowed relation) : Links allowed σ (σ.link origin relation head id) := by
  refine ⟨rfl, _, rfl, fun e he => ?_⟩
  obtain ⟨way, _, hway⟩ := List.mem_filterMap.mp he
  simp only [bind, Option.bind_eq_some_iff] at hway
  obtain ⟨start, _, stop, _, hway⟩ := hway
  cases hway
  exact h

theorem links_draw (var : String) (σ : Scene) {d : Drawing} (h : allowed d.relation) :
    Links allowed σ (σ.draw var d) := by
  have hseek : Links allowed σ (σ.seek var d) := .of_graph_eq (σ.graph_seek var d)
  exact hseek.trans (links_link _ _ _ _ h)

theorem links_drawAll (var : String) (σ : Scene) {links : List Declared} {ds : List Drawing}
    (hds : List.Forall₂ Drawing.Of links ds) (h : ∀ link ∈ links, allowed link.relation) :
    Links allowed σ (ds.foldl (draw var) σ) := by
  induction hds generalizing σ with
  | nil => exact .of_graph_eq rfl
  | @cons link d links ds hd _ ih =>
    obtain ⟨hlink, hlinks⟩ := List.forall_mem_cons.mp h
    exact (links_draw var σ (hd.relation ▸ hlink)).trans (ih (σ.draw var d) hlinks)

theorem Links.adds (h : Links allowed σ τ) : Adds Kind σ τ :=
  ⟨[], h.1.trans (List.append_nil _).symm, fun _ hm => absurd hm List.not_mem_nil⟩

end Scene

namespace Statement

variable {P Q R : Scene → Scene → Prop} {s t u : Statement}

def Agrees (s : Statement) (value : String → Json) : Prop :=
  ∀ name v, s.param? name = some v → value name = v

structure Acts (P : Scene → Scene → Prop) (s t : Statement) : Prop where
  fresh : t.Fresh
  kept : ∀ {name v}, s.param? name = some v → t.param? name = some v
  clauses : ∃ cs, t.clauses = s.clauses ++ cs ∧ ∀ value, t.Agrees value →
    ∀ σ, P σ (cs.foldl (Clause.act value) σ)

theorem Acts.comp (h : Acts P s t) (g : Acts Q t u) (hR : ∀ σ τ υ, P σ τ → Q τ υ → R σ υ) :
    Acts R s u := by
  obtain ⟨cs, hcs, hrun⟩ := h.clauses
  obtain ⟨ds, hds, grun⟩ := g.clauses
  refine ⟨g.fresh, fun hv => g.kept (h.kept hv), cs ++ ds, ?_, fun value hvalue σ => ?_⟩
  · rw [hds, hcs, List.append_assoc]
  · -- values that agree with all that is bound agree with what was bound first
    rw [List.foldl_append]
    exact hR _ _ _ (hrun value (fun name v hv => hvalue name v (g.kept hv)) σ)
      (grun value hvalue _)

/-- Binding values does nothing to a scene. -/
theorem Acts.of_writes {a : Created} (h : Writes s t a) (hc : t.clauses = s.clauses) :
    Acts (fun σ τ => τ = σ) s t :=
  ⟨h.fresh, h.kept, [], hc.trans (List.append_nil _).symm, fun _ _ _ => rfl⟩

/-- Values are bound before the clauses that name them. -/
theorem Acts.after {a : Created} (h : Writes s t a) (hc : t.clauses = s.clauses)
    (g : Acts P t u) : Acts P s u :=
  (Acts.of_writes h hc).comp g fun _ _ _ hστ hτυ => hστ ▸ hτυ

theorem Acts.refl (h : s.Fresh) : Acts (fun σ τ => τ = σ) s s := .of_writes (.refl h) rfl

theorem Acts.push (h : s.Fresh) (c : Clause)
    (hc : ∀ value, s.Agrees value → ∀ σ, P σ (c.act value σ)) : Acts P s (s.push c) :=
  ⟨h.push c, id, [c], rfl, hc⟩

theorem Acts.then_push (h : Acts P s t) (c : Clause)
    (hc : ∀ value, t.Agrees value → ∀ σ τ, P σ τ → R σ (c.act value τ)) : Acts R s (t.push c) :=
  h.comp (.push (P := fun σ τ => ∃ value, t.Agrees value ∧ τ = c.act value σ) h.fresh c
    fun value hvalue _ => ⟨value, hvalue, rfl⟩)
    fun _ _ _ hστ ⟨value, hvalue, hυ⟩ => hυ ▸ hc value hvalue _ _ hστ

/-- What two parts make of a scene one after the other. -/
theorem Acts.andThen {f k : Scene → Scene} (h : Acts (fun σ τ => τ = f σ) s t)
    (g : Acts (fun σ τ => τ = k σ) t u) : Acts (fun σ τ => τ = k (f σ)) s u :=
  h.comp g fun _ _ _ hτ hυ => hτ ▸ hυ

/-- Once the parts of a statement are together they are run on a graph. -/
theorem Acts.apply (h : Acts P s t) (hs : s.clauses = []) (g : Graph) :
    ∃ τ, P ⟨g, [[]]⟩ τ ∧ t.apply g = τ.graph := by
  obtain ⟨cs, hcs, hrun⟩ := h.clauses
  have hvalue : t.Agrees t.value := by
    intro name v hv
    rw [value, hv]
    rfl
  refine ⟨_, hrun t.value hvalue ⟨g, [[]]⟩, ?_⟩
  rw [Statement.apply, scene, hcs, hs, List.nil_append]

/-! ## Entities -/

theorem acts_find (h : s.Fresh) {var vertexId : String} {pattern : VertexPattern}
    (hv : s.vertex var vertexId = .ok (t, pattern)) :
    ∃ category keys, Identity.decode vertexId = .ok (category, keys) ∧
      Acts (fun σ τ => τ = σ.find var category.label (.string vertexId)) s
        (t.push (.findVertices [pattern])) := by
  obtain ⟨category, keys, hd, rfl, rfl⟩ := vertex_eq_ok hv
  refine ⟨category, keys, hd, ?_⟩
  have hbind := Writes.bindFresh h stems_lettered.1 (.string vertexId)
  refine .after hbind rfl (.push hbind.fresh _ fun value hvalue σ => ?_)
  rw [Clause.act, List.foldl_cons, List.foldl_nil,
    hvalue _ _ (param?_bindFresh_new s "vid" (.string vertexId))]
  rfl

/-- A new vertex has its record at once. -/
theorem acts_createVertex (h : s.Fresh) {var vertexId keyProperty : String} {node : Node}
    {category : Category} (hc : s.createVertex var vertexId node category keyProperty = .ok t) :
    ∃ labels, vertexLabels node category vertexId = .ok labels ∧
      Acts (fun σ τ => τ = σ.create var
        ⟨labels.map (·.name), vertexRecord vertexId node keyProperty⟩) s t := by
  obtain ⟨labels, hlabels, rfl⟩ := createVertex_eq_ok hc
  obtain ⟨hbind, hid, hlabel, hprops⟩ := writes_bindVertex h vertexId node keyProperty
  refine ⟨labels, hlabels, .after hbind rfl ?_⟩
  have hcreate := Acts.push (P := fun σ τ => τ = σ.create var ⟨labels.map (·.name),
      (Properties.put .empty idProperty (.string vertexId)).put labelProperty
        (.string node.typeChain)⟩) hbind.fresh (.createVertex var labels (numbered "id" s.issued)
      (numbered "label" (s.issued + 1))) fun value hvalue σ => by
    rw [Clause.act, hvalue _ _ hid, hvalue _ _ hlabel]
  refine hcreate.then_push _ fun value hvalue σ τ hτ => ?_
  rw [Clause.act, hτ, Scene.modify_create, Clause.change, if_pos rfl,
    hvalue _ _ (hcreate.kept hprops), vertexRecord]

theorem acts_createEdge (h : s.Fresh) (ids : EdgeIds) (origin : String) (relation : Identifier)
    (head : String) : Acts (fun σ τ => τ = σ.link origin relation.name head
      (.string (ids s.issued))) s (s.createEdge ids origin relation head) := by
  have hbind := Writes.bindFresh h stems_lettered.2.1 (.string (ids s.issued))
  refine .after hbind rfl (.push hbind.fresh _ fun value hvalue σ => ?_)
  have hslot := hvalue _ _ (param?_bindFresh_new s "eid" (.string (ids s.issued)))
  rw [Clause.act, ← hslot]
  rfl

/-- What links a new vertex to another one draws the edge between them. -/
theorem acts_linkIfFound (h : s.Fresh) {ids : EdgeIds} {var relation otherId : String}
    {direction : Direction} (hl : s.linkIfFound ids var direction relation otherId = .ok t) :
    ∃ d : Drawing, d.Of ⟨direction, relation, .ok otherId⟩ ∧
      Acts (fun σ τ => τ = σ.draw var d) s t := by
  obtain ⟨identifier, hidentifier, hl⟩ := (Checks.bind_eq_ok_iff _ _ _).mp hl
  obtain ⟨⟨s₁, pattern⟩, hv, hl⟩ := (Checks.bind_eq_ok_iff _ _ _).mp hl
  have hvertex := writes_vertex h hv
  obtain ⟨category, keys, hd, rfl, rfl⟩ := vertex_eq_ok hv
  have hname := (Identifier.of_eq_ok_iff _ _).mp hidentifier
  let edgeId := ids (s.bindFresh "vid" (.string otherId)).1.issued
  have hid := Writes.bindFresh hvertex.fresh stems_lettered.2.1 (.string edgeId)
  have hends := Acts.of_writes (hvertex.then_nothing hid) rfl
  have hother := hid.kept (param?_bindFresh_new s "vid" (.string otherId))
  have hslot := param?_bindFresh_new (s.bindFresh "vid" (.string otherId)).1 "eid" (.string edgeId)
  let d : Drawing := ⟨numbered "o" s.params.size, direction, identifier.name, category.label,
    otherId, edgeId⟩
  have hkeep := hends.then_push (R := fun σ τ => τ = σ.keep var) (.keep var)
    fun _ _ _ _ hτ => hτ ▸ rfl
  have hseek := hkeep.then_push (R := fun σ τ => τ = σ.seek var d)
    (.findOptional ⟨numbered "o" s.params.size, category.identifier, numbered "vid" s.issued⟩)
    fun value hvalue σ τ hτ => by
      rw [Clause.act, hτ, hvalue _ _ hother]
      rfl
  refine ⟨d, ⟨rfl, hname, rfl, ⟨category, keys, hd, rfl⟩, ⟨_, rfl⟩⟩, ?_⟩
  cases hl
  refine hseek.then_push _ fun value hvalue σ τ hτ => ?_
  have hvalued : value (numbered "eid" (s.bindFresh "vid" (.string otherId)).1.issued) =
      .string edgeId := hvalue _ _ hslot
  rw [hτ]
  cases direction <;> exact congrArg (Scene.link _ _ _ _) hvalued

/-- Declared relations are drawn one after the other. -/
theorem acts_linkAll (h : s.Fresh) {ids : EdgeIds} {var : String}
    {encode : String → Except DomainError String} {links : List (Direction × String × String)}
    (hl : linkAll ids var encode s links = .ok t) :
    ∃ ds, List.Forall₂ Drawing.Of (declared encode links) ds ∧
      Acts (fun σ τ => τ = ds.foldl (Scene.draw var) σ) s t := by
  induction links generalizing s with
  | nil =>
    cases hl
    exact ⟨[], .nil, .refl h⟩
  | cons link links ih =>
    obtain ⟨direction, relation, key⟩ := link
    obtain ⟨otherId, hother, hl⟩ := (Checks.bind_eq_ok_iff _ _ _).mp hl
    obtain ⟨s₁, hone, hl⟩ := (Checks.bind_eq_ok_iff _ _ _).mp hl
    obtain ⟨d, hd, hdraw⟩ := acts_linkIfFound h hone
    obtain ⟨ds, hds, hrest⟩ := ih hdraw.fresh hl
    have htarget : encode key = .ok otherId := (Checks.mapError_eq_ok_iff _ _ _).mp hother
    exact ⟨d :: ds, .cons ⟨hd.direction, hd.relation, htarget.trans hd.target, hd.label, hd.other⟩
      hds, hdraw.andThen hrest⟩

end Statement

namespace Store
open Statement

/-- A clause that would do nothing may be left out. -/
theorem scene_push_unless (s : Statement) (c : Clause) {p : Prop} [Decidable p]
    (hp : p → ∀ σ, c.act s.value σ = σ) (g : Graph) :
    (if p then s else s.push c).scene g = c.act s.value (s.scene g) ∧
      (if p then s else s.push c).value = s.value := by
  by_cases h : p
  · rw [if_pos h, hp h]
    exact ⟨rfl, rfl⟩
  · rw [if_neg h]
    exact ⟨scene_push s c g, rfl⟩

theorem placesOf_found (g : Graph) (var label : String) (id : Json) :
    (Scene.find ⟨g, [[]]⟩ var label id).placesOf var = g.find label id := by
  simp [Scene.placesOf, Scene.find, List.filterMap_map, Function.comp_def, Entries.get?]

theorem apply_withChanges {t : Statement} (ht : t.clauses = []) {root : VertexPattern}
    (hroot : root.var = "v") (changes : Changes) (g : Graph) :
    (withChanges t root changes).apply g =
      g.modify (g.find root.label.name (t.value root.slot)) (changes.apply t.value) := by
  let found := t.push (.findVertices [root])
  have hfound : found.scene g = Scene.find ⟨g, [[]]⟩ "v" root.label.name (t.value root.slot) := by
    rw [scene_push, scene, ht, ← hroot]
    rfl
  obtain ⟨hset, hvalue⟩ := scene_push_unless found (.setProperties "v" changes.sets)
    (p := changes.sets = []) (fun hnil σ => by rw [hnil]; exact σ.modify_id "v") g
  obtain ⟨hremove, _⟩ := scene_push_unless
    (if changes.sets = [] then found else found.push (.setProperties "v" changes.sets))
    (.removeProperties "v" changes.removes) (p := changes.removes = [])
    (fun hnil σ => by rw [hnil]; exact σ.modify_id "v") g
  have hchanges : (fun p => Clause.change t.value "v" p (.removeProperties "v" changes.removes)) ∘
      (fun p => Clause.change t.value "v" p (.setProperties "v" changes.sets)) =
        changes.apply t.value := by
    funext p
    simp only [Function.comp_apply, Clause.change, if_true]
    rfl
  rw [apply, withChanges, hremove, hset, hvalue, hfound, Clause.act, Clause.act,
    Scene.modify_modify, Scene.modify, placesOf_found]
  exact congrArg (g.modify _) hchanges

/-- An update merges what it takes over into every vertex with its id. -/
theorem apply_of_updateStatement {vertexId : String} {attributes : Dict Json}
    {statement : Option Statement} (h : updateStatement vertexId attributes = .ok statement) :
    ∃ category keys, Identity.decode vertexId = .ok (category, keys) ∧ ∀ g : Graph,
      statement.elim g (·.apply g) = g.modify (g.find category.label (.string vertexId))
        (·.merge (.ofDict (writable attributes))) := by
  obtain ⟨s, root, t, changes, hv, hbound, rfl⟩ := updateStatement_eq_ok h
  obtain ⟨category, keys, hd, rfl, rfl⟩ := vertex_eq_ok hv
  refine ⟨category, keys, hd, fun g => ?_⟩
  have hmerge : (fun p : Properties => p.merge (.ofDict (writable attributes))) =
      changes.apply t.value := funext fun p => (hbound.apply_eq p).symm
  rw [hmerge]
  by_cases hnone : changes.sets = [] ∧ changes.removes = []
  · have hid : changes.apply t.value = id := by
      funext p
      rw [Changes.apply, hnone.1, hnone.2]
      rfl
    rw [if_pos hnone, hid, Graph.modify_id]
    rfl
  · have hslot := hbound.writes.kept (param?_bindFresh_new _ "vid" (.string vertexId))
    rw [if_neg hnone, Option.elim_some, apply_withChanges hbound.clauses rfl, value, hslot]
    rfl

end Store

end DeviceGraph
