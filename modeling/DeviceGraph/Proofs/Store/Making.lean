import DeviceGraph.Proofs.Statement.Closed
import DeviceGraph.Store.Devices
import DeviceGraph.Store.Groups

/-!
# Making the statements of the store

Each helper that binds values tells which parameters its caller has yet to mention,
and the finished statements mention them all.
-/

set_option autoImplicit false

namespace DeviceGraph

open Statement Piece

/-! ## Patterns -/

def Piece.Silent (pieces : List Piece) : Prop := Apart pieces ∧ slots pieces = []

/-! Long texts are bare because their parts are. -/

theorem Statement.bare_edgeIdText : Bare edgeIdText := by decide

theorem Statement.bare_edgeProjection : Bare edgeProjection := by
  simp only [edgeProjection, bare_append, bare_edgeIdText, and_true]
  decide

theorem Statement.bare_pathProjection : Bare pathProjection := by
  simp only [pathProjection, bare_append, bare_edgeIdText, and_true]
  decide

theorem Statement.bare_distinctItems {list : String} (h : Bare list) :
    Bare (distinctItems list) :=
  (bare_append _ _).mpr ⟨(bare_append _ _).mpr ⟨by decide, h⟩, by decide⟩

theorem Statement.silent_labelled {var : String} (hvar : Word var) {label : Option String}
    {pieces : List Piece} (h : labelled var label = .ok pieces) : Silent pieces := by
  cases label with
  | none =>
    cases h
    exact ⟨⟨hvar.bare, trivial⟩, rfl⟩
  | some label =>
    obtain ⟨identifier, _, hok⟩ := (Checks.bind_eq_ok_iff _ _ _).mp h
    cases hok
    exact ⟨by simp +decide [Apart, hvar.bare], rfl⟩

theorem Statement.silent_neighbourPattern {direction : Direction} {root : String}
    (hroot : Word root) {relation label : Option String} {pieces : List Piece}
    (h : neighbourPattern direction root relation label = .ok pieces) : Silent pieces := by
  obtain ⟨edge, hedge, h⟩ := (Checks.bind_eq_ok_iff _ _ _).mp h
  obtain ⟨target, htarget, h⟩ := (Checks.bind_eq_ok_iff _ _ _).mp h
  obtain ⟨hedge, hedgeSlots⟩ := silent_labelled (by decide) hedge
  obtain ⟨htarget, htargetSlots⟩ := silent_labelled (by decide) htarget
  have hall : ∀ before after : String, Bare before → Separates after →
      Silent (.text ("(" ++ root ++ ")" ++ before) :: edge ++ .text after :: target ++
        [.text ")"]) := by
    intro before after hbefore hafter
    refine ⟨⟨?_, ?_⟩, by simp [hedgeSlots, htargetSlots]⟩
    · simp +decide [hroot.bare, hbefore]
    · exact (hedge.then_text hafter htarget).end_text (by decide)
  cases direction <;> cases h <;> exact hall _ _ (by decide) (by decide)

namespace Statement.Making

variable {access : Access} {s : Statement} {fixed pending : List String}

theorem congr (h : Making access s fixed pending) {pending' : List String}
    (hp : ∀ name, name ∈ pending ↔ name ∈ pending') : Making access s fixed pending' :=
  { h with mentioned := fun name => (h.mentioned name).trans (or_congr_right (hp name)) }

/-- A clause that takes no parameter. -/
theorem pushSilent (h : Making access s fixed pending) (pieces : List Piece)
    (hp : Silent pieces) (hne : charsOf pieces ≠ []) :
    Making access (s.push (.written pieces)) fixed pending :=
  h.push (.written pieces) _ ⟨hp.1, hne⟩ (by simp [Clause.slots, hp.2])

theorem findVertex (h : Making access s fixed pending) {var vertexId : String} (hvar : Word var)
    {t : Statement} {pattern : VertexPattern} (hv : s.vertex var vertexId = .ok (t, pattern)) :
    Making access (t.push (.findVertices [pattern])) fixed pending := by
  obtain ⟨ht, hpattern⟩ := h.vertex hvar hv
  exact ht.push (.findVertices [pattern]) _ (by simpa [Clause.Worded] using hpattern)
    (by simp [Clause.slots])

end Statement.Making

namespace Store

variable {access : Access} {s t : Statement} {fixed pending : List String}

/-! ## Reading -/

theorem making_labels {vertexId : String} (h : labelsStatement vertexId = .ok s) :
    Making .read s [] [] := by
  obtain ⟨⟨t, root⟩, hroot, h⟩ := (Checks.bind_eq_ok_iff _ _ _).mp h
  cases h
  exact ((Making.new .read).findVertex (by decide) hroot).pushSilent _
    ⟨⟨by decide, trivial⟩, rfl⟩ (charsOf_ne_nil (by simp) _)

theorem making_filterPredicates {entries : List (String × Json)} {predicates : List (List Piece)}
    (h : Making access s fixed pending)
    (hf : filterPredicates s entries = .ok (t, predicates)) :
    (∀ ps ∈ predicates, Apart ps) ∧
      Making access t fixed (predicates.flatMap slots ++ pending) := by
  induction entries generalizing s pending predicates with
  | nil =>
    cases hf
    exact ⟨fun _ hm => absurd hm List.not_mem_nil, h⟩
  | cons entry entries ih =>
    obtain ⟨key, value⟩ := entry
    obtain ⟨property, _, hf⟩ := (Checks.bind_eq_ok_iff _ _ _).mp hf
    cases hnull : value.isNull with
    | true =>
      rw [if_pos hnull] at hf
      obtain ⟨⟨t', rest⟩, hrest, hf⟩ := (Checks.bind_eq_ok_iff _ _ _).mp hf
      cases hf
      obtain ⟨hapart, hmaking⟩ := ih h hrest
      refine ⟨List.forall_mem_cons.mpr ⟨?_, hapart⟩, hmaking⟩
      simp +decide [Apart]
    | false =>
      rw [if_neg (by simp [hnull])] at hf
      obtain ⟨⟨t', rest⟩, hrest, hf⟩ := (Checks.bind_eq_ok_iff _ _ _).mp hf
      cases hf
      obtain ⟨hapart, hmaking⟩ := ih (h.bindFresh "f" (by decide) value) hrest
      refine ⟨List.forall_mem_cons.mpr ⟨?_, hapart⟩, hmaking.congr ?_⟩
      · have hslot : Word ("f" ++ decimalText s.issued) := word_numbered (by decide) _
        simp +decide [Apart, hslot]
      · simp [numbered, or_left_comm]

theorem apart_conditions {ps : List Piece} (hp : Apart ps) (first separator : String)
    (hf : Separates first) (hs : Separates separator) {pss : List (List Piece)}
    (h : ∀ ps ∈ pss, Apart ps) :
    Apart (ps ++ if pss = [] then [] else .text first :: joinPieces separator pss) := by
  split
  · rwa [List.append_nil]
  · exact hp.then_text hf (apart_join hs h)

theorem slots_conditions (first separator : String) (pss : List (List Piece)) :
    slots (if pss = [] then [] else .text first :: joinPieces separator pss) =
      pss.flatMap slots := by
  split
  · next hnil => rw [hnil]; rfl
  · rw [slots_text, slots_join]

theorem making_slicePieces (h : Making access s [] pending) (page : Option Page) :
    Apart (slicePieces s page).2 ∧ ∃ fixed, Making access (slicePieces s page).1 fixed
      (slots (slicePieces s page).2 ++ pending) := by
  cases page with
  | none => exact ⟨trivial, [], h⟩
  | some page =>
    have hbound := (h.bind "offset" (by decide) (by decide) (.ofNat page.offset)).bind
      "end" (by decide) (by decide) (.ofNat page.last)
    exact ⟨by simp +decide [slicePieces, Apart], _,
      hbound.congr (by simp [slicePieces, or_left_comm])⟩

theorem making_related {rootId : String} {q : RelatedQuery}
    (h : relatedStatement rootId q = .ok s) : ∃ fixed, Making .read s fixed [] := by
  obtain ⟨⟨s₁, root⟩, hroot, h⟩ := (Checks.bind_eq_ok_iff _ _ _).mp h
  obtain ⟨pattern, hpattern, h⟩ := (Checks.bind_eq_ok_iff _ _ _).mp h
  obtain ⟨⟨s₂, predicates⟩, hfilter, h⟩ := (Checks.bind_eq_ok_iff _ _ _).mp h
  cases h
  obtain ⟨hvertex, hwords⟩ := (Making.new .read).vertex (by decide) hroot
  obtain ⟨hpattern, hsilent⟩ := silent_neighbourPattern (by decide) hpattern
  obtain ⟨hpredicates, hfiltered⟩ := making_filterPredicates hvertex hfilter
  have hcondition := apart_conditions hpattern " WHERE " " AND " (by decide) (by decide) hpredicates
  obtain ⟨hslice, fixed, hsliced⟩ := making_slicePieces hfiltered q.page
  have hfound := hsliced.push (.findVertices [root])
    (predicates.flatMap slots ++ slots (slicePieces s₂ q.page).2)
    (by simpa [Clause.Worded] using hwords)
    (by simp [Clause.slots, or_comm, or_left_comm])
  have hfiltering := hfound.push (.written (.text "WITH root, [" :: pattern ++
      (if predicates = [] then [] else .text " WHERE " :: joinPieces " AND " predicates) ++
      [.text " | n] AS related"]))
    (slots (slicePieces s₂ q.page).2)
    ⟨(hcondition.end_text (by decide)).text (by decide), charsOf_ne_nil (by simp) _⟩
    (by simp [Clause.slots, hsilent, slots_conditions])
  have hpaged := hfiltering.push (.written (
      .text ("WITH root, " ++ distinctItems "related") :: (slicePieces s₂ q.page).2 ++
        [.text " AS page"])) []
    ⟨(hslice.end_text (by decide)).text
      ((bare_append _ _).mpr ⟨by decide, bare_distinctItems (by decide)⟩),
      charsOf_ne_nil (by simp) _⟩
    (by simp [Clause.slots])
  have hstart : Bare ("RETURN \x7b\n  object: properties(root),\n  pathsIn: [(root)<-[e]-(n) | " ++
      pathProjection ++ "],\n  pathsOut: [(root)-[e]->(n) | " ++ pathProjection ++
      "],\n  Es: [") := by
    simp only [bare_append, bare_pathProjection, and_true]
    decide
  have hend : Separates (" WHERE n IN page | " ++ edgeProjection ++
      "],\n  Vs: [n IN page | properties(n)]\n\x7d AS result") :=
    .append (.append (by decide) bare_edgeProjection) (by decide)
  exact ⟨fixed, hpaged.pushSilent _
    ⟨(hpattern.end_text hend).text hstart, by simp [hsilent]⟩
    (charsOf_ne_nil (by simp) _)⟩

/-! ## Changes -/

theorem making_bindChanges {entries : List (String × Json)} {changes : Changes}
    (h : Making access s fixed pending) (hb : bindChanges s entries = .ok (t, changes)) :
    (∀ item ∈ changes.sets, Word item.2) ∧
      Making access t fixed (changes.sets.map (·.2) ++ pending) := by
  induction entries generalizing s pending changes with
  | nil =>
    cases hb
    exact ⟨fun _ hm => absurd hm List.not_mem_nil, h⟩
  | cons entry entries ih =>
    obtain ⟨key, value⟩ := entry
    rw [bindChanges] at hb
    split at hb
    · exact ih h hb
    obtain ⟨property, _, hb⟩ := (Checks.bind_eq_ok_iff _ _ _).mp hb
    cases hnull : value.isNull with
    | true =>
      rw [if_pos hnull] at hb
      obtain ⟨⟨t', rest⟩, hrest, hb⟩ := (Checks.bind_eq_ok_iff _ _ _).mp hb
      cases hb
      obtain ⟨hwords, hmaking⟩ := ih h hrest
      exact ⟨hwords, hmaking⟩
    | false =>
      rw [if_neg (by simp [hnull])] at hb
      obtain ⟨⟨t', rest⟩, hrest, hb⟩ := (Checks.bind_eq_ok_iff _ _ _).mp hb
      cases hb
      obtain ⟨hwords, hmaking⟩ := ih (h.bindFresh "p" (by decide) value) hrest
      exact ⟨List.forall_mem_cons.mpr ⟨word_numbered (by decide) _, hwords⟩,
        hmaking.congr (by simp [numbered, or_left_comm])⟩

theorem making_update {vertexId : String} {attributes : Dict Json}
    (h : updateStatement vertexId attributes = .ok (some s)) : Making .write s [] [] := by
  obtain ⟨⟨s₁, root⟩, hroot, h⟩ := (Checks.bind_eq_ok_iff _ _ _).mp h
  obtain ⟨⟨s₂, changes⟩, hchanges, h⟩ := (Checks.bind_eq_ok_iff _ _ _).mp h
  obtain ⟨hvertex, hroot⟩ := (Making.new .write).vertex (by decide) hroot
  obtain ⟨hwords, hbound⟩ := making_bindChanges hvertex hchanges
  have hfound := hbound.push (.findVertices [root]) (changes.sets.map (·.2))
    (by simpa [Clause.Worded] using hroot) (by simp [Clause.slots, or_comm])
  have hset : Making .write (if changes.sets = [] then s₂.push (.findVertices [root])
      else (s₂.push (.findVertices [root])).push (.setProperties "v" changes.sets)) [] [] := by
    split
    · next hnil => simpa [hnil] using hfound
    · exact hfound.push (.setProperties "v" changes.sets) _ ⟨by decide, hwords⟩
        (by simp [Clause.slots])
  dsimp only at h
  split at h
  · cases h
  · by_cases hremoves : changes.removes = []
    · rw [if_pos hremoves] at h
      cases h
      exact hset
    · rw [if_neg hremoves] at h
      cases h
      exact hset.push (.removeProperties "v" changes.removes) _ (show Word "v" by decide)
        (by simp [Clause.slots])

theorem making_delete {vertexId : String} (h : deleteStatement vertexId = .ok s) :
    Making .write s [] [] := by
  obtain ⟨⟨t, root⟩, hroot, h⟩ := (Checks.bind_eq_ok_iff _ _ _).mp h
  cases h
  exact ((Making.new .write).findVertex (by decide) hroot).push (.deleteVertices ["v"]) _
    (by simp +decide [Clause.Worded]) (by simp [Clause.slots])

/-! ## Devices -/

namespace Devices

theorem silent_rootPieces {options : ReadOptions} {pieces : List Piece}
    (h : rootPieces options = .ok pieces) : Silent pieces := by
  rw [rootPieces] at h
  split at h
  · cases h
    exact ⟨⟨by decide, trivial⟩, rfl⟩
  · obtain ⟨properties, _, hok⟩ := (Checks.bind_eq_ok_iff _ _ _).mp h
    cases hok
    have hproperties : Apart (joinPieces ", " (properties.map ([.text ".", .name ·]))) :=
      apart_join (by decide) (by simp +decide [Apart])
    exact ⟨(hproperties.end_text (by decide)).text (by decide), by simp⟩

theorem making_edgeCondition (h : Making access s fixed []) (hf : "component_of" ∉ fixed)
    (options : ReadOptions) :
    Apart (edgeCondition s options).2 ∧ ∃ fixed, Making access (edgeCondition s options).1 fixed
      (slots (edgeCondition s options).2) := by
  have hbound := h.bind "component_of" (by decide) hf (.string componentRelation)
  rcases options with ⟨_ | _, _ | _, _⟩
  · exact ⟨trivial, fixed, h⟩
  · exact ⟨by simp +decide [edgeCondition, Apart], _, hbound⟩
  · exact ⟨by simp +decide [edgeCondition, Apart], _, hbound⟩
  · exact ⟨trivial, fixed, h⟩

theorem making_get {devices : List String} {options : ReadOptions}
    (h : getStatement devices options = .ok s) : ∃ fixed, Making .read s fixed [] := by
  obtain ⟨ids, _, h⟩ := (Checks.bind_eq_ok_iff _ _ _).mp h
  obtain ⟨root, hroot, h⟩ := (Checks.bind_eq_ok_iff _ _ _).mp h
  obtain ⟨hroot, hsilent⟩ := silent_rootPieces hroot
  have hfound := ((Making.new .read).bind "ids" (by decide) (by decide)
    (.ofStrings ids)).push (.written [.text "MATCH (v:",
      .name Category.device.identifier, .text ") WHERE v.id IN ", .slot "ids"]) []
    ⟨by simp +decide [Apart], charsOf_ne_nil (by simp) _⟩ (by simp [Clause.slots])
  dsimp only at h
  split at h
  · cases h
    obtain ⟨hcondition, fixed, hbound⟩ := making_edgeCondition hfound (by decide) options
    have haround : ∀ pattern item : String, Bare ("[" ++ pattern) → Bare item →
        Apart (.text ("[" ++ pattern) :: (edgeCondition _ options).2 ++
          [.text (" | " ++ item ++ "]")]) := fun pattern item hp hi =>
      (hcondition.end_text (.append (.append (by decide) hi) (by decide))).text hp
    have hin := haround "(v)<-[e]-(n)" _ (by decide) bare_pathProjection
    have hout := haround "(v)-[e]->(n)" _ (by decide) bare_pathProjection
    have hedges := haround "(v)-[e]-(n)" _ (by decide) bare_edgeProjection
    have hvertices := haround "(v)-[e]-(n)" "properties(n)" (by decide) (by decide)
    refine ⟨fixed, hbound.push (.written _) _ ⟨?_, charsOf_ne_nil (by simp) _⟩
      (by simp [Clause.slots, hsilent])⟩
    exact (((((hroot.text (by decide)).then_text (by decide) hin).then_text (by decide)
      hout).then_text (by decide) hedges).then_text (by decide) hvertices).end_text (by decide)
  · cases h
    exact ⟨_, hfound.pushSilent _ ⟨(hroot.end_text (by decide)).text (by decide), by simp [hsilent]⟩
      (charsOf_ne_nil (by simp) _)⟩

theorem making_createComponents {ids : EdgeIds} {device : String} {components : List Node}
    {i : Nat} (h : Making access s fixed [])
    (hc : createComponents ids device s i components = .ok t) : Making access t fixed [] := by
  induction components generalizing s i with
  | nil =>
    cases hc
    exact h
  | cons component components ih =>
    obtain ⟨componentId, _, hc⟩ := (Checks.bind_eq_ok_iff _ _ _).mp hc
    obtain ⟨s₁, hcreate, hc⟩ := (Checks.bind_eq_ok_iff _ _ _).mp hc
    have hvar : Word ("c" ++ decimalText i) := word_numbered (by decide) i
    exact ih ((h.createVertex hvar hcreate).createEdge hvar (by decide) ids _) hc

theorem making_create {ids : EdgeIds} {device : Node} {groups devices : Relations}
    {components : List Node} {vertexId : String}
    (h : createStatement ids device groups devices components = .ok (vertexId, s)) :
    Making .write s [] [] := by
  obtain ⟨deviceId, _, h⟩ := (Checks.bind_eq_ok_iff _ _ _).mp h
  obtain ⟨s₁, hdevice, h⟩ := (Checks.bind_eq_ok_iff _ _ _).mp h
  obtain ⟨s₂, hcomponents, h⟩ := (Checks.bind_eq_ok_iff _ _ _).mp h
  obtain ⟨s₃, hgroups, h⟩ := (Checks.bind_eq_ok_iff _ _ _).mp h
  obtain ⟨s₄, hdevices, h⟩ := (Checks.bind_eq_ok_iff _ _ _).mp h
  cases h
  have hvar : Word "v" := by decide
  have hcreated := (Making.new .write).createVertex hvar hdevice
  exact ((making_createComponents hcreated hcomponents).linkAll hvar hgroups).linkAll hvar hdevices

theorem making_createComponent {ids : EdgeIds} {device : String} {component : Node}
    {vertexId : String}
    (h : createComponentStatement ids device component = .ok (vertexId, s)) :
    Making .write s [] [] := by
  obtain ⟨deviceId, _, h⟩ := (Checks.bind_eq_ok_iff _ _ _).mp h
  obtain ⟨componentId, _, h⟩ := (Checks.bind_eq_ok_iff _ _ _).mp h
  obtain ⟨⟨s₁, root⟩, hroot, h⟩ := (Checks.bind_eq_ok_iff _ _ _).mp h
  obtain ⟨s₂, hcreate, h⟩ := (Checks.bind_eq_ok_iff _ _ _).mp h
  cases h
  have hfound := (Making.new .write).findVertex (by decide) hroot
  exact (hfound.createVertex (by decide) hcreate).createEdge (by decide) (by decide) ids _

theorem making_delete {device : String} (h : deleteStatement device = .ok s) :
    Making .write s [] [] := by
  obtain ⟨vertexId, _, h⟩ := (Checks.bind_eq_ok_iff _ _ _).mp h
  obtain ⟨⟨s₁, root⟩, hroot, h⟩ := (Checks.bind_eq_ok_iff _ _ _).mp h
  cases h
  have hfound := (Making.new .write).findVertex (by decide) hroot
  have hcomponents := hfound.pushSilent ([.text "OPTIONAL MATCH (c:",
      .name Category.component.identifier, .text ")-[:", .name componentIdentifier,
      .text "]->(v)"]) ⟨by simp +decide [Apart], rfl⟩ (charsOf_ne_nil (by simp) _)
  exact hcomponents.push (.deleteVertices ["c", "v"]) _
    (show ∀ var ∈ ["c", "v"], Word var by decide) (by simp [Clause.slots])

end Devices

/-! ## Groups -/

namespace Groups

theorem bare_vertexRow : Bare vertexRow := by decide

theorem apart_relatedPieces {direction : Direction} {pieces : List Piece}
    (h : relatedPieces direction = .ok pieces) : Apart pieces ∧ slots pieces = ["parent"] := by
  obtain ⟨pattern, hpattern, h⟩ := (Checks.bind_eq_ok_iff _ _ _).mp h
  cases h
  obtain ⟨hpattern, hsilent⟩ := silent_neighbourPattern (by decide) hpattern
  have hdirection : Bare direction.text := by cases direction <;> decide
  have hend : Separates ("\n  RETURN \x7bkind: 'related', owner: main.id, dir: '" ++
      direction.text ++ "', e: " ++ edgeProjection ++ ", vProps: properties(n)\x7d AS result") :=
    .append (.append (.append (.append (by decide) hdirection) (by decide)) bare_edgeProjection)
      (by decide)
  have hslot : Apart [.slot "parent", .text _] := ⟨by decide, hend.ended _, hend.1, trivial⟩
  exact ⟨(hpattern.then_text (by decide) hslot).text (by decide), by simp [hsilent]⟩

theorem making_get {groups : List String} {withRelated : Bool}
    (h : getStatement groups withRelated = .ok s) : ∃ fixed, Making .read s fixed [] := by
  obtain ⟨ids, _, h⟩ := (Checks.bind_eq_ok_iff _ _ _).mp h
  have hfound := ((Making.new .read).bind "ids" (by decide) (by decide)
    (.ofStrings ids)).push (.written [.text "MATCH (main:",
      .name Category.group.identifier, .text ") WHERE main.id IN ", .slot "ids"]) []
    ⟨by simp +decide [Apart], charsOf_ne_nil (by simp) _⟩ (by simp [Clause.slots])
  dsimp only at h
  split at h
  · obtain ⟨outgoing, hout, h⟩ := (Checks.bind_eq_ok_iff _ _ _).mp h
    obtain ⟨incoming, hin, h⟩ := (Checks.bind_eq_ok_iff _ _ _).mp h
    cases h
    obtain ⟨hout, houtSlots⟩ := apart_relatedPieces hout
    obtain ⟨hin, hinSlots⟩ := apart_relatedPieces hin
    have hbound := hfound.bind "parent" (by decide) (by decide) (.string parentRelation)
    have hstart : Bare ("CALL \x7b\n  WITH main\n  RETURN " ++ vertexRow ++
        " AS result\n  UNION ALL\n") :=
      (bare_append _ _).mpr ⟨(bare_append _ _).mpr ⟨by decide, bare_vertexRow⟩, by decide⟩
    exact ⟨_, hbound.push (.written _) _
      ⟨((hout.text hstart).then_text (by decide) hin).end_text (by decide),
        charsOf_ne_nil (by simp) _⟩
      (by simp [Clause.slots, houtSlots, hinSlots])⟩
  · cases h
    have hrow : Bare ("RETURN " ++ vertexRow ++ " AS result") :=
      (bare_append _ _).mpr ⟨(bare_append _ _).mpr ⟨by decide, bare_vertexRow⟩, by decide⟩
    exact ⟨_, hfound.pushSilent _ ⟨⟨hrow, trivial⟩, rfl⟩ (charsOf_ne_nil (by simp) _)⟩

theorem making_ancestors {group : String} (h : ancestorsStatement group = .ok s) :
    Making .read s [] [] := by
  obtain ⟨vertexId, _, h⟩ := (Checks.bind_eq_ok_iff _ _ _).mp h
  obtain ⟨⟨s₁, root⟩, hroot, h⟩ := (Checks.bind_eq_ok_iff _ _ _).mp h
  cases h
  refine ((Making.new .read).findVertex (by decide) hroot).pushSilent _ ⟨?_, rfl⟩
    (charsOf_ne_nil (by simp) _)
  have hend : Separates (")\nWITH g, a, min(length(p)) AS depth\nORDER BY depth\n" ++
      "WITH g, collect(a) AS ancestors\nUNWIND [g] + ancestors AS x\n" ++
      "RETURN properties(x) AS result") := .append (.append (by decide) (by decide)) (by decide)
  have hgroup : Apart [.name Category.group.identifier, .text _] :=
    ⟨hend.ended _, hend.1, trivial⟩
  exact ⟨by decide, by simp +decide, by decide, hgroup⟩

theorem making_findParent (h : Making access s fixed []) {parent : Option String}
    (hf : findParent s parent = .ok t) : Making access t fixed [] := by
  cases parent with
  | none =>
    cases hf
    exact h
  | some path =>
    obtain ⟨parentId, _, hf⟩ := (Checks.bind_eq_ok_iff _ _ _).mp hf
    obtain ⟨⟨s₁, pattern⟩, hpattern, hf⟩ := (Checks.bind_eq_ok_iff _ _ _).mp hf
    cases hf
    exact h.findVertex (by decide) hpattern

theorem making_create {ids : EdgeIds} {group : Node} {groups : Relations} {vertexId : String}
    (h : createStatement ids group groups = .ok (vertexId, s)) : Making .write s [] [] := by
  obtain ⟨groupId, _, h⟩ := (Checks.bind_eq_ok_iff _ _ _).mp h
  obtain ⟨s₁, hparent, h⟩ := (Checks.bind_eq_ok_iff _ _ _).mp h
  obtain ⟨s₂, hcreate, h⟩ := (Checks.bind_eq_ok_iff _ _ _).mp h
  obtain ⟨s₃, hlinks, h⟩ := (Checks.bind_eq_ok_iff _ _ _).mp h
  cases h
  have hvar : Word "v" := by decide
  have hcreated := (making_findParent (Making.new .write) hparent).createVertex hvar hcreate
  split at hlinks
  · exact (hcreated.createEdge hvar (by decide) ids _).linkAll hvar hlinks
  · exact hcreated.linkAll hvar hlinks

end Groups

end Store

end DeviceGraph
