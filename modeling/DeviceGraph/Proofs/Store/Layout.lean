import DeviceGraph.Proofs.Statement.Layout
import DeviceGraph.Proofs.Store.Creation
import DeviceGraph.Proofs.Store.Making
import Mathlib.Data.List.Perm.Subperm

/-!
# How a creation is laid out

The statement of a creation is a row of blocks: the vertex itself, with an edge to the
vertex above it if there is one, then every component with its edge, then every declared
relation in order. No block is left out or made twice, no two blocks share a variable or
a parameter, and there is nothing else in the statement. Its text is the texts of these
clauses, a line each.
-/

set_option autoImplicit false

namespace DeviceGraph

namespace Statement

variable {s t : Statement}

/-- If as many parameters are mentioned as there are, each is mentioned once. -/
theorem Making.nodup_slots {access : Access} {fixed : List String} (h : Making access s fixed [])
    (hsize : s.params.size = (s.clauses.flatMap Clause.slots).length) :
    (s.clauses.flatMap Clause.slots).Nodup := by
  have hmem : s.params.keys ⊆ s.clauses.flatMap Clause.slots := by
    intro name hm
    have hmentioned := (h.mentioned name).mp ((mem_params_keys s name).mp hm)
    exact hmentioned.resolve_right List.not_mem_nil
  have hlength : (s.clauses.flatMap Clause.slots).length ≤ s.params.keys.length := by
    rw [← hsize, Dict.keys, List.length_map, Dict.size]
  have hperm := (List.subperm_of_subset s.params.nodup_keys hmem).perm_of_length_le hlength
  exact hperm.nodup_iff.mp s.params.nodup_keys

/-- Words and the names of two stems do not clash. -/
theorem nodup_names {words cs os : List String} {a b i j : Nat} (hwords : words.Nodup)
    (hlettered : ∀ word ∈ words, Lettered word) (hc : NumberedBetween "c" a b cs)
    (ho : NumberedBetween "o" i j os) : (words ++ cs ++ os).Nodup := by
  have hcos : (cs ++ os).Nodup := by
    refine List.nodup_append.mpr ⟨hc.nodup, ho.nodup, fun name hm other hmo heq => ?_⟩
    obtain ⟨m, _, _, rfl⟩ := hc.numbered name hm
    obtain ⟨n, _, _, rfl⟩ := ho.numbered other hmo
    exact absurd (numbered_inj (by decide) (by decide) heq).1 (by decide)
  rw [List.append_assoc]
  refine List.nodup_append.mpr ⟨hwords, hcos, fun word hm other hmo heq => ?_⟩
  rcases List.mem_append.mp hmo with hmo | hmo
  · obtain ⟨n, _, _, rfl⟩ := hc.numbered other hmo
    exact lettered_ne_numbered (hlettered word hm) "c" n heq
  · obtain ⟨n, _, _, rfl⟩ := ho.numbered other hmo
    exact lettered_ne_numbered (hlettered word hm) "o" n heq

end Statement

theorem Relations.directed_of_mem_entries {r : Relations} {link : Direction × String × String}
    (h : link ∈ r.entries) : link.1 ≠ .both := by
  simp only [entries, List.mem_append, List.mem_flatMap, List.mem_map] at h
  rcases h with ⟨_, _, _, _, rfl⟩ | ⟨_, _, _, _, rfl⟩ <;> exact fun hd => nomatch hd

namespace Store
open Statement

structure Above where
  var : String
  relation : String
  target : Except DomainError String

namespace Creation

def entity : Creation → Entity
  | device node .. => (node, .device)
  | component _ node => (node, .component)
  | group node _ => (node, .group)

def var : Creation → String
  | device .. | group .. => "v"
  | component .. => "c"

def keys : Creation → List String
  | device node .. => [node.id]
  | component owner node => [owner, node.id]
  | group node _ => [node.id]

def above? : Creation → Option Above
  | device .. => none
  | component owner _ => some ⟨"d", componentRelation, Identity.deviceId owner⟩
  | group node _ => (Groups.parentPath? node).map fun path =>
      ⟨"parent", parentRelation, Identity.groupId path⟩

def components : Creation → List Node
  | device _ _ _ components => components
  | component .. | group .. => []

def declared : Creation → List Declared
  | device _ groups devices _ => Statement.declared Identity.groupId groups.entries ++
      Statement.declared Identity.deviceId devices.entries
  | component .. => []
  | group _ groups => Statement.declared Identity.groupId groups.entries

def Rooted (c : Creation) (s : Statement) (vertexId : String) (cs : List Clause) : Prop :=
  s.Creates c.var vertexId (keyPropertyOf c.entity.2) c.entity.1 c.entity.2 cs

def Placed (c : Creation) (s : Statement) (vertexId : String) (cs : List Clause) : Prop :=
  match c.above? with
  | none => c.Rooted s vertexId cs
  | some above => ∃ aboveId found made drawn, above.target = .ok aboveId ∧
      s.Finds above.var aboveId found ∧ c.Rooted s vertexId made ∧
      s.Joins c.var above.relation above.var drawn ∧ cs = found ++ made ++ drawn

end Creation

def Devices.Mounts (device : String) (s : Statement) (component : Node) (cs : List Clause) :
    Prop :=
  ∃ var componentId made drawn, Identity.componentId device component.id = .ok componentId ∧
    s.Creates var componentId keyProperty component .component made ∧
    s.Joins var componentRelation "v" drawn ∧ cs = made ++ drawn

/-- A statement is the vertex of a creation, then its components, then its declared relations.
No name is introduced twice and no parameter is mentioned twice. -/
structure Layout (c : Creation) (vertexId : String) (s : Statement) (first : List Clause)
    (parts links : List (List Clause)) : Prop where
  encoded : Identity.encode c.entity.2 c.keys = .ok vertexId
  clauses : s.clauses = first ++ parts.flatten ++ links.flatten
  first : c.Placed s vertexId first
  parts : List.Forall₂ (Devices.Mounts c.entity.1.id s) c.components parts
  links : List.Forall₂ (s.Draws c.var) c.declared links
  vars : (s.clauses.flatMap Clause.vars).Nodup
  slots : (s.clauses.flatMap Clause.slots).Nodup
  size : s.params.size = 3 + (if c.above?.isSome then 2 else 0) + 4 * c.components.length +
    2 * c.declared.length

/-! ## Blocks -/

theorem Devices.Mounts.kept {device : String} {s t : Statement} {component : Node}
    {cs ds : List Clause} (h : Mounts device s component cs) (g : Extends s t ds) :
    Mounts device t component cs := by
  obtain ⟨var, componentId, made, drawn, hid, hmade, hdrawn, hcs⟩ := h
  exact ⟨var, componentId, made, drawn, hid, hmade.kept g, hdrawn.kept g, hcs⟩

theorem Creation.Placed.kept {c : Creation} {s t : Statement} {vertexId : String}
    {cs ds : List Clause} (h : c.Placed s vertexId cs) (g : Extends s t ds) :
    c.Placed t vertexId cs := by
  revert h
  unfold Placed
  cases c.above? with
  | none => exact fun h => Creates.kept h g
  | some above =>
    rintro ⟨aboveId, found, made, drawn, hid, hfound, hmade, hdrawn, hcs⟩
    exact ⟨aboveId, found, made, drawn, hid, hfound.kept g, Creates.kept hmade g, hdrawn.kept g, hcs⟩

/-- The variables of the first block, and how many parameters it mentions. -/
theorem Creation.Placed.counted {c : Creation} {s : Statement} {vertexId : String}
    {cs : List Clause} (h : c.Placed s vertexId cs) :
    cs.flatMap Clause.vars = c.above?.toList.map Above.var ++ [c.var] ∧
      (cs.flatMap Clause.slots).length = 3 + if c.above?.isSome then 2 else 0 := by
  revert h
  unfold Placed
  cases c.above? with
  | none => exact fun h => Creates.counted h
  | some above =>
    rintro ⟨aboveId, found, made, drawn, hid, hfound, hmade, hdrawn, rfl⟩
    obtain ⟨hfoundVars, hfoundSlots⟩ := hfound.counted
    obtain ⟨hmadeVars, hmadeSlots⟩ := Creates.counted hmade
    obtain ⟨hdrawnVars, hdrawnSlots⟩ := hdrawn.counted
    simp only [List.flatMap_append, List.length_append, hfoundVars, hmadeVars, hdrawnVars,
      hfoundSlots, hmadeSlots, hdrawnSlots]
    exact ⟨rfl, rfl⟩

/-- The words that name what is created first and what is above it. -/
theorem Creation.words (c : Creation) :
    (c.above?.toList.map Above.var ++ [c.var]).Nodup ∧
      ∀ word ∈ c.above?.toList.map Above.var ++ [c.var], Lettered word := by
  have hone : ["v"].Nodup ∧ ∀ word ∈ ["v"], Lettered word := by decide
  cases c with
  | device => exact hone
  | component => exact (by decide : ["d", "c"].Nodup ∧ ∀ word ∈ ["d", "c"], Lettered word)
  | group node groups =>
    simp only [above?, var]
    cases Groups.parentPath? node with
    | none => exact hone
    | some path =>
      exact (by decide : ["parent", "v"].Nodup ∧ ∀ word ∈ ["parent", "v"], Lettered word)

/-- A vertex that is found, one that is created, and an edge between the two. -/
theorem extends_under {s t : Statement} (h : s.Fresh) {aboveVar aboveId : String}
    {pattern : VertexPattern} (hv : s.vertex aboveVar aboveId = .ok (t, pattern))
    {u : Statement} {var vertexId keyProperty : String} {node : Node} {category : Category}
    (hc : (t.push (.findVertices [pattern])).createVertex var vertexId node category keyProperty =
      .ok u) (ids : EdgeIds) (relation : Identifier) :
    ∃ found made drawn, Extends s (u.createEdge ids var relation aboveVar)
        (found ++ made ++ drawn) ∧
      (u.createEdge ids var relation aboveVar).Finds aboveVar aboveId found ∧
      (u.createEdge ids var relation aboveVar).Creates var vertexId keyProperty node category made ∧
      (u.createEdge ids var relation aboveVar).Joins var relation.name aboveVar drawn := by
  obtain ⟨hfind, hfound⟩ := extends_vertex h hv
  obtain ⟨made, hmake, hmade⟩ := extends_createVertex hfind.fresh hc
  obtain ⟨drawn, hdraw, hdrawn⟩ := extends_createEdge hmake.fresh ids var relation aboveVar
  exact ⟨_, made, drawn, (hfind.trans hmake).trans hdraw, hfound.kept (hmake.trans hdraw),
    hmade.kept hdraw, hdrawn⟩

theorem Devices.extends_createComponents {ids : EdgeIds} {device : String} {components : List Node}
    {s t : Statement} {i : Nat} (hs : s.Fresh)
    (h : createComponents ids device s i components = .ok t) :
    ∃ parts, Extends s t parts.flatten ∧ List.Forall₂ (Mounts device t) components parts ∧
      NumberedBetween "c" i (i + components.length) (parts.flatten.flatMap Clause.vars) ∧
      t.params.size = s.params.size + 4 * components.length := by
  induction components generalizing s i with
  | nil =>
    cases h
    exact ⟨[], .refl hs, .nil, .nil .., rfl⟩
  | cons component rest ih =>
    obtain ⟨componentId, hid, h⟩ := (Checks.bind_eq_ok_iff _ _ _).mp h
    obtain ⟨s₁, hcreate, h⟩ := (Checks.bind_eq_ok_iff _ _ _).mp h
    obtain ⟨made, hmake, hmade⟩ := extends_createVertex hs hcreate
    obtain ⟨drawn, hdraw, hdrawn⟩ := extends_createEdge hmake.fresh ids (numbered "c" i)
      componentIdentifier "v"
    have hpart := hmake.trans hdraw
    obtain ⟨parts, hparts, hmounts, hnames, htotal⟩ := ih hpart.fresh h
    obtain ⟨hmadeVars, hmadeSlots⟩ := hmade.counted
    obtain ⟨hdrawnVars, hdrawnSlots⟩ := hdrawn.counted
    have hmount : Mounts device _ component (made ++ drawn) :=
      ⟨_, componentId, made, drawn, liftDomain_ok hid, hmade.kept hdraw, hdrawn, rfl⟩
    have hvars : (made ++ drawn).flatMap Clause.vars = [numbered "c" i] := by
      rw [List.flatMap_append, hdrawnVars, List.append_nil]
      exact hmadeVars
    have hsize := hpart.size
    rw [List.flatMap_append, List.length_append, hmadeSlots, hdrawnSlots] at hsize
    refine ⟨(made ++ drawn) :: parts, hpart.trans hparts, .cons (hmount.kept hparts) hmounts, ?_, ?_⟩
    · rw [List.flatten_cons, List.flatMap_append, hvars, List.length_cons,
        ← Nat.add_assoc, Nat.add_right_comm]
      exact (NumberedBetween.single "c" (Nat.lt_succ_self i)).append (by decide) hnames
        (Nat.le_succ i) (Nat.le_add_right _ _)
    · rw [htotal, hsize, List.length_cons]
      omega

namespace Creation

theorem making_of_make {c : Creation} {ids : EdgeIds} {vertexId : String} {s : Statement}
    (h : c.make ids = .ok (vertexId, s)) : Making .write s [] [] := by
  cases c with
  | device => exact Devices.making_create h
  | component => exact Devices.making_createComponent h
  | group => exact Groups.making_create h

theorem size_start : ({ access := .write } : Statement).params.size = 0 := rfl

/-- The blocks put together. -/
theorem layout_of_blocks {c : Creation} {vertexId : String} {s t u : Statement}
    {first : List Clause} {parts links : List (List Clause)} {a b i j : Nat}
    (hencoded : Identity.encode c.entity.2 c.keys = .ok vertexId)
    (hmaking : Making .write u [] [])
    (hfirst : Extends { access := .write } s first) (hplaced : c.Placed s vertexId first)
    (hparts : Extends s t parts.flatten)
    (hmounts : List.Forall₂ (Devices.Mounts c.entity.1.id t) c.components parts)
    (hcs : NumberedBetween "c" a b (parts.flatten.flatMap Clause.vars))
    (hpartsSize : t.params.size = s.params.size + 4 * c.components.length)
    (hlinks : Extends t u links.flatten) (hdraws : List.Forall₂ (u.Draws c.var) c.declared links)
    (hos : NumberedBetween "o" i j (links.flatten.flatMap Clause.vars))
    (hlinksSize : u.params.size = t.params.size + 2 * c.declared.length) :
    Layout c vertexId u first parts links := by
  have hall := (hfirst.trans hparts).trans hlinks
  have hclauses : u.clauses = first ++ parts.flatten ++ links.flatten := hall.clauses
  obtain ⟨hnames, hcount⟩ := hplaced.counted
  obtain ⟨hwords, hlettered⟩ := c.words
  refine ⟨hencoded, hclauses, hplaced.kept (hparts.trans hlinks),
    hmounts.imp fun _ _ hm => hm.kept hlinks, hdraws, ?_, ?_, ?_⟩
  · rw [hclauses, List.flatMap_append, List.flatMap_append, hnames]
    exact nodup_names hwords hlettered hcs hos
  · refine hmaking.nodup_slots ?_
    rw [hclauses, hall.size, size_start, Nat.zero_add]
  · rw [hlinksSize, hpartsSize, hfirst.size, size_start, Nat.zero_add, hcount]

theorem layout_device {ids : EdgeIds} {node : Node} {groups devices : Relations}
    {components : List Node} {vertexId : String} {s : Statement}
    (h : (device node groups devices components).make ids = .ok (vertexId, s)) :
    ∃ first parts links,
      Layout (device node groups devices components) vertexId s first parts links := by
  have hmaking := making_of_make h
  obtain ⟨id, hid, h⟩ := (Checks.bind_eq_ok_iff _ _ _).mp h
  obtain ⟨s₁, hcreate, h⟩ := (Checks.bind_eq_ok_iff _ _ _).mp h
  obtain ⟨s₂, hcomponents, h⟩ := (Checks.bind_eq_ok_iff _ _ _).mp h
  obtain ⟨s₃, hgroups, h⟩ := (Checks.bind_eq_ok_iff _ _ _).mp h
  obtain ⟨s₄, hdevices, h⟩ := (Checks.bind_eq_ok_iff _ _ _).mp h
  cases h
  have hdirected : ∀ {r : Relations}, ∀ link ∈ r.entries, link.1 ≠ .both :=
    fun _ hm => Relations.directed_of_mem_entries hm
  obtain ⟨first, hfirst, hplaced⟩ := extends_createVertex fresh_start hcreate
  obtain ⟨parts, hparts, hmounts, hcs, hpartsSize⟩ :=
    Devices.extends_createComponents hfirst.fresh hcomponents
  obtain ⟨links, hlinks, hdraws, hos, hlinksSize⟩ :=
    extends_linkAll hparts.fresh hdirected hgroups
  obtain ⟨more, hmore, hmoreDraws, hmoreOs, hmoreSize⟩ :=
    extends_linkAll hlinks.fresh hdirected hdevices
  have hboth : Extends s₂ s (links ++ more).flatten := by
    rw [List.flatten_append]
    exact hlinks.trans hmore
  have hnames : NumberedBetween "o" s₂.params.size s.params.size
      ((links ++ more).flatten.flatMap Clause.vars) := by
    rw [List.flatten_append, List.flatMap_append]
    exact hos.append (by decide) hmoreOs (by omega) (by omega)
  refine ⟨first, parts, links ++ more, layout_of_blocks (liftDomain_ok hid) hmaking hfirst hplaced
    hparts hmounts hcs hpartsSize hboth ?_ hnames ?_⟩
  · exact List.rel_append (hdraws.imp fun _ _ hd => hd.kept hmore) hmoreDraws
  · rw [hmoreSize, hlinksSize]
    rw [declared, List.length_append, length_declared, length_declared]
    omega

theorem layout_component {ids : EdgeIds} {owner : String} {node : Node} {vertexId : String}
    {s : Statement} (h : (component owner node).make ids = .ok (vertexId, s)) :
    ∃ first, Layout (component owner node) vertexId s first [] [] := by
  have hmaking := making_of_make h
  obtain ⟨deviceId, hdevice, h⟩ := (Checks.bind_eq_ok_iff _ _ _).mp h
  obtain ⟨id, hid, h⟩ := (Checks.bind_eq_ok_iff _ _ _).mp h
  obtain ⟨⟨s₁, root⟩, hroot, h⟩ := (Checks.bind_eq_ok_iff _ _ _).mp h
  obtain ⟨s₂, hcreate, h⟩ := (Checks.bind_eq_ok_iff _ _ _).mp h
  cases h
  obtain ⟨found, made, drawn, hfirst, hfound, hmade, hdrawn⟩ :=
    extends_under fresh_start hroot hcreate ids componentIdentifier
  exact ⟨_, layout_of_blocks (liftDomain_ok hid) hmaking hfirst
    ⟨deviceId, found, made, drawn, liftDomain_ok hdevice, hfound, hmade, hdrawn, rfl⟩
    (.refl hfirst.fresh) .nil (.nil "c" 0 0) rfl (.refl hfirst.fresh) .nil (.nil "o" 0 0) rfl⟩

/-- The vertex of a group, under the group above it if its node names one. -/
theorem placed_group (ids : EdgeIds) (groups : Relations) {node : Node} {vertexId : String}
    {s t : Statement}
    (hparent : Groups.findParent { access := .write } (Groups.parentPath? node) = .ok s)
    (hcreate : s.createVertex "v" vertexId node .group Groups.keyProperty = .ok t) :
    ∃ first, Extends { access := .write } (if (Groups.parentPath? node).isSome then
        t.createEdge ids "v" parentIdentifier "parent" else t) first ∧
      (group node groups).Placed (if (Groups.parentPath? node).isSome then
        t.createEdge ids "v" parentIdentifier "parent" else t) vertexId first := by
  simp only [Placed, above?]
  cases hp : Groups.parentPath? node with
  | none =>
    rw [hp] at hparent
    cases hparent
    exact extends_createVertex fresh_start hcreate
  | some path =>
    rw [hp] at hparent
    obtain ⟨parentId, hid, hparent⟩ := (Checks.bind_eq_ok_iff _ _ _).mp hparent
    obtain ⟨⟨s₁, pattern⟩, hv, hparent⟩ := (Checks.bind_eq_ok_iff _ _ _).mp hparent
    cases hparent
    obtain ⟨found, made, drawn, hfirst, hfound, hmade, hdrawn⟩ :=
      extends_under fresh_start hv hcreate ids parentIdentifier
    exact ⟨_, hfirst, parentId, found, made, drawn, liftDomain_ok hid, hfound, hmade, hdrawn, rfl⟩

theorem layout_group {ids : EdgeIds} {node : Node} {groups : Relations} {vertexId : String}
    {s : Statement} (h : (group node groups).make ids = .ok (vertexId, s)) :
    ∃ first links, Layout (group node groups) vertexId s first [] links := by
  have hmaking := making_of_make h
  obtain ⟨id, hid, h⟩ := (Checks.bind_eq_ok_iff _ _ _).mp h
  obtain ⟨s₁, hparent, h⟩ := (Checks.bind_eq_ok_iff _ _ _).mp h
  obtain ⟨s₂, hcreate, h⟩ := (Checks.bind_eq_ok_iff _ _ _).mp h
  obtain ⟨s₃, hgroups, h⟩ := (Checks.bind_eq_ok_iff _ _ _).mp h
  cases h
  obtain ⟨first, hfirst, hplaced⟩ := placed_group ids groups hparent hcreate
  obtain ⟨links, hlinks, hdraws, hos, hlinksSize⟩ := extends_linkAll hfirst.fresh
    (fun _ hm => Relations.directed_of_mem_entries hm) hgroups
  refine ⟨first, links, layout_of_blocks (liftDomain_ok hid) hmaking hfirst hplaced
    (.refl hfirst.fresh) .nil (.nil "c" 0 0) rfl hlinks hdraws hos ?_⟩
  rw [hlinksSize, declared, length_declared]

theorem layout_of_make {c : Creation} {ids : EdgeIds} {vertexId : String} {s : Statement}
    (h : c.make ids = .ok (vertexId, s)) :
    ∃ first parts links, Layout c vertexId s first parts links := by
  cases c with
  | device => exact layout_device h
  | component =>
    obtain ⟨first, hlayout⟩ := layout_component h
    exact ⟨first, [], [], hlayout⟩
  | group =>
    obtain ⟨first, links, hlayout⟩ := layout_group h
    exact ⟨first, [], links, hlayout⟩

/-- The text that a creation submits has a part for each clause of its blocks. -/
theorem text_of_layout {c : Creation} {ids : EdgeIds} {vertexId : String} {s : Statement}
    {first : List Clause} {parts links : List (List Clause)}
    (h : c.make ids = .ok (vertexId, s)) (hlayout : Layout c vertexId s first parts links) :
    s.text = Text.join "\n" ((first ++ parts.flatten ++ links.flatten).map Clause.text) := by
  rw [(making_of_make h).text_eq, hlayout.clauses]

example : ((component "d" (.ofTemplate "c" "ecu" .component)).make (numbered "e")).map (·.2.text) =
    .ok (Text.join "\n" ["MATCH (d:`device` \x7bid: $vid0\x7d)",
      "CREATE (c:`ecu`:`component` \x7bid: $id1, label: $label2\x7d)", "SET c += $props3",
      "CREATE (c)-[:`component_of` \x7bid: $eid4\x7d]->(d)"]) := by rfl

/-- Every creation that succeeds submits one statement, a write in which each component and
each declared relation has one block. -/
theorem submits_layout {c : Creation} {e e' : Engine} {vertexId : String}
    (h : c.run e = (.ok vertexId, e')) :
    ∃ s first parts links, e'.submitted = e.submitted ++ [s] ∧ s.access = .write ∧
      Layout c vertexId s first parts links := by
  obtain ⟨s, hmade, hsubmitted⟩ := made_of_run h
  obtain ⟨first, parts, links, hlayout⟩ := layout_of_make hmade
  exact ⟨s, first, parts, links, hsubmitted, (making_of_make hmade).access_eq, hlayout⟩

def towing : Creation :=
  .device (.ofTemplate "d" "bus" .device) (Relations.empty.add .incoming "holds" "/north")
    ((Relations.empty.add .outgoing "tows" "t").add .outgoing "tows" "t")
    [.ofTemplate "c" "ecu" .component]

theorem submits_layout_towing : ∃ s e' first parts links,
    towing.run {} = (.ok "device___d", e') ∧ e'.submitted = [s] ∧ s.access = .write ∧
      Layout towing "device___d" s first parts links ∧
      parts.length = 1 ∧ links.length = 3 ∧ s.params.size = 13 := by
  obtain ⟨e', hrun⟩ : ∃ e', towing.run {} = (.ok "device___d", e') := ⟨_, rfl⟩
  obtain ⟨s, first, parts, links, hs, haccess, hlayout⟩ := submits_layout hrun
  exact ⟨s, e', first, parts, links, hrun, hs, haccess, hlayout, hlayout.parts.length_eq.symm,
    hlayout.links.length_eq.symm, hlayout.size⟩

end Creation

end Store

end DeviceGraph
