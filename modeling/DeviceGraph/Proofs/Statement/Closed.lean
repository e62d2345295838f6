import DeviceGraph.Proofs.Statement.Placeholders
import DeviceGraph.Proofs.Statement.Records
import DeviceGraph.Proofs.Text.Pieces

/-!
# Closed statements

A statement is closed when the parameters that its text mentions are those that
were bound, and none was bound twice. A statement in the making is closed up to
the names that are bound and have yet to be mentioned; every way to find, create
and link entities mentions what it binds.
-/

set_option autoImplicit false

namespace DeviceGraph

namespace Clause

open Statement Piece

structure Readable (c : Clause) : Prop where
  apart : Apart c.pieces
  text_ne : charsOf c.pieces ≠ []

theorem Readable.text_ne_empty {c : Clause} (h : c.Readable) : c.text ≠ "" := by
  intro he
  have hne := h.text_ne
  rw [← toList_clause, he] at hne
  exact hne rfl

end Clause

theorem VertexPattern.apart_pieces {v : VertexPattern} (hv : Statement.Word v.var)
    (hs : Statement.Word v.slot) : Piece.Apart v.pieces := by
  simp +decide [pieces, Piece.Apart, hv.bare, hs]

theorem EdgePattern.apart_pieces {e : EdgePattern} (ho : Statement.Word e.origin)
    (hh : Statement.Word e.head) (hs : Statement.Word e.slot) : Piece.Apart e.pieces := by
  have hend : Statement.Separates ("\x7d]->(" ++ e.head ++ ")") :=
    .append (.append (by decide) hh.bare) (by decide)
  simp +decide [pieces, Piece.Apart, ho.bare, hh.bare, hs, hend]

namespace Clause

open Statement Piece

def Worded : Clause → Prop
  | free t => Bare t ∧ t ≠ ""
  | written ps => Apart ps ∧ charsOf ps ≠ []
  | findVertices vs => ∀ v ∈ vs, Word v.var ∧ Word v.slot
  | findOptional v => Word v.var ∧ Word v.slot
  | findEdges origin _ head => (Word origin.var ∧ Word origin.slot) ∧ Word head.var ∧ Word head.slot
  | keep var => Word var
  | createVertex var _ idSlot chainSlot => Word var ∧ Word idSlot ∧ Word chainSlot
  | mergeProperties var values => Word var ∧ Word values
  | createEdge e => Word e.origin ∧ Word e.head ∧ Word e.slot
  | createEdgeIfFound other e => Word other ∧ Word e.origin ∧ Word e.head ∧ Word e.slot
  | setProperties var items => Word var ∧ ∀ item ∈ items, Word item.2
  | removeProperties var _ => Word var
  | deleteEdges => True
  | deleteVertices vars => ∀ var ∈ vars, Word var

def slots : Clause → List String
  | written ps => Piece.slots ps
  | findVertices vs => vs.map (·.slot)
  | findOptional v => [v.slot]
  | findEdges origin _ head => [origin.slot, head.slot]
  | createVertex _ _ idSlot chainSlot => [idSlot, chainSlot]
  | mergeProperties _ values => [values]
  | createEdge e | createEdgeIfFound _ e => [e.slot]
  | setProperties _ items => items.map (·.2)
  | free _ | keep _ | removeProperties .. | deleteEdges | deleteVertices _ => []

theorem slots_pieces (c : Clause) : Piece.slots c.pieces = c.slots := by
  cases c <;> simp [pieces, slots, VertexPattern.pieces, EdgePattern.pieces, List.flatMap_map,
    ← List.map_eq_flatMap, List.flatMap_eq_nil_iff]

theorem Worded.readable {c : Clause} (h : c.Worded) : c.Readable := by
  cases c with
  | free t => exact ⟨⟨h.1, trivial⟩, by simpa [pieces, chars] using h.2⟩
  | written ps => exact ⟨h.1, h.2⟩
  | findVertices vs =>
    have hvs : Apart (joinPieces ", " (vs.map (·.pieces))) := apart_join (by decide) (by
      intro ps hps
      obtain ⟨v, hv, rfl⟩ := List.mem_map.mp hps
      exact VertexPattern.apart_pieces (h v hv).1 (h v hv).2)
    exact ⟨⟨by decide, hvs⟩, by simp [pieces, chars]⟩
  | findOptional v =>
    exact ⟨⟨by decide, VertexPattern.apart_pieces h.1 h.2⟩, by simp [pieces, chars]⟩
  | findEdges origin relation head =>
    have ho := VertexPattern.apart_pieces h.1.1 h.1.2
    have hh := VertexPattern.apart_pieces h.2.1 h.2.2
    have hmiddle : Apart ([.name relation, .text "]->"] ++ head.pieces) := by
      simp +decide [Apart, hh]
    have hall : Apart (origin.pieces ++ ([.text "-[e:", .name relation, .text "]->"] ++
        head.pieces)) := ho.then_text (by decide) hmiddle
    rw [← List.append_assoc] at hall
    exact ⟨⟨by decide, hall⟩, by simp [pieces, chars]⟩
  | keep var => exact ⟨by simp +decide [pieces, Apart, Word.bare h], by simp [pieces, chars]⟩
  | createVertex var labels idSlot chainSlot =>
    obtain ⟨hvar, hid, hchain⟩ := h
    have hlabels : Apart (joinPieces ":" (labels.map ([.name ·]))) :=
      apart_join (by decide) (by simp [Apart])
    have hrest : Apart [.text " \x7bid: ", .slot idSlot, .text ", label: ", .slot chainSlot,
        .text "\x7d)"] := by
      simp +decide [Apart, hid, hchain]
    refine ⟨⟨by simp +decide [hvar.bare], hlabels.append hrest (by simp +decide)⟩,
      by simp [pieces, chars]⟩
  | mergeProperties var values =>
    exact ⟨by simp +decide [pieces, Apart, h.1.bare, h.2], by simp [pieces, chars]⟩
  | createEdge e =>
    exact ⟨⟨by decide, EdgePattern.apart_pieces h.1 h.2.1 h.2.2⟩, by simp [pieces, chars]⟩
  | createEdgeIfFound other e =>
    have he := (EdgePattern.apart_pieces h.2.1 h.2.2.1 h.2.2.2).end_text (t := ")") (by decide)
    exact ⟨⟨by simp +decide [h.1.bare], he⟩, by simp [pieces, chars]⟩
  | setProperties var items =>
    have hitems : Apart (joinPieces ", " (items.map fun item =>
        [.text (var ++ "."), .name item.1, .text " = ", .slot item.2])) :=
      apart_join (by decide) (by
      intro ps hps
      obtain ⟨item, hm, rfl⟩ := List.mem_map.mp hps
      simp +decide [Apart, h.1.bare, h.2 item hm])
    exact ⟨⟨by decide, hitems⟩, by simp [pieces, chars]⟩
  | removeProperties var properties =>
    have hproperties : Apart (joinPieces ", " (properties.map fun property =>
        [.text (var ++ "."), .name property])) := apart_join (by decide) (by
      intro ps hps
      obtain ⟨property, _, rfl⟩ := List.mem_map.mp hps
      simp +decide [Apart, Word.bare h])
    exact ⟨⟨by decide, hproperties⟩, by simp [pieces, chars]⟩
  | deleteEdges => exact ⟨⟨by decide, trivial⟩, by simp [pieces, chars]⟩
  | deleteVertices vars =>
    have hvars : Bare (Text.join ", " vars) := by
      intro c hc
      rcases Text.mem_join hc with hc | ⟨var, hm, hc⟩
      · exact (by decide : Bare ", ") c hc
      · exact (h var hm).bare c hc
    exact ⟨by simp +decide [pieces, Apart, hvars], by simp [pieces, chars]⟩

end Clause

namespace Piece

theorem charsOf_ne_nil {t : String} (h : t ≠ "") (rest : List Piece) :
    charsOf (.text t :: rest) ≠ [] := fun he =>
  h (String.toList_eq_nil_iff.mp (List.append_eq_nil_iff.mp he).1)

end Piece

namespace Statement

open Piece

theorem toList_text {s : Statement} (h : ∀ c ∈ s.clauses, c.Readable) :
    s.text.toList = charsOf (joinPieces "\n" (s.clauses.map Clause.pieces)) := by
  rw [text_eq_join fun c hc => (h c hc).text_ne_empty, Text.toList_join, charsOf_joinPieces,
    List.map_map, List.map_map]
  simp only [Function.comp_def, toList_clause]

theorem apart_clauses {s : Statement} (h : ∀ c ∈ s.clauses, c.Readable) :
    Apart (joinPieces "\n" (s.clauses.map Clause.pieces)) := by
  refine apart_join (by decide) fun ps hps => ?_
  obtain ⟨c, hc, rfl⟩ := List.mem_map.mp hps
  exact (h c hc).apart

theorem placeholders_text {s : Statement} (h : ∀ c ∈ s.clauses, c.Readable) :
    placeholders s.text.toList = s.clauses.flatMap Clause.slots := by
  have hread := placeholders_charsOf (apart_clauses h) ended_nil
  rw [List.append_nil, placeholders, List.append_nil] at hread
  rw [toList_text h, hread, slots_join, List.flatMap_map]
  simp only [Clause.slots_pieces]

/-! ## Statements in the making -/

def bound (s : Statement) : List String := s.bindings.map (·.1)

theorem mem_params_keys (s : Statement) (name : String) :
    name ∈ s.params.keys ↔ name ∈ s.bound := by
  rw [params, bound]
  induction s.bindings with
  | nil => exact Iff.rfl
  | cons binding bindings ih =>
    rw [List.foldr_cons, Dict.mem_keys_insert, ih, List.map_cons, List.mem_cons]

/-- The text mentions the parameters and nothing else, and no value was bound over another. -/
structure Closed (s : Statement) : Prop where
  mentioned : ∀ name, name ∈ placeholders s.text.toList ↔ name ∈ s.params.keys
  bound_once : s.bound.Nodup

/-- A statement that is closed up to some names that it has yet to mention. Of the names that
are not made, only `fixed` ones are bound. -/
structure Making (access : Access) (s : Statement) (fixed pending : List String) : Prop where
  access_eq : s.access = access
  readable : ∀ c ∈ s.clauses, c.Readable
  fresh : s.Fresh
  bound_once : s.bound.Nodup
  lettered : ∀ name ∈ s.bound, Lettered name → name ∈ fixed
  mentioned : ∀ name, name ∈ s.bound ↔ name ∈ s.clauses.flatMap Clause.slots ∨ name ∈ pending

namespace Making

variable {access : Access} {s : Statement} {fixed pending : List String}

theorem new (access : Access) : Making access { access } [] [] where
  access_eq := rfl
  readable := fun _ hm => absurd hm List.not_mem_nil
  fresh := fresh_new access
  bound_once := List.nodup_nil
  lettered := fun _ hm => absurd hm List.not_mem_nil
  mentioned := fun _ => by simp [bound]

theorem closed (h : Making access s fixed []) : s.Closed where
  mentioned := fun name => by
    rw [placeholders_text h.readable, mem_params_keys, h.mentioned]
    simp
  bound_once := h.bound_once

theorem text_eq (h : Making access s fixed pending) :
    s.text = Text.join "\n" (s.clauses.map Clause.text) :=
  text_eq_join fun c hc => (h.readable c hc).text_ne_empty

theorem bindFresh (h : Making access s fixed pending) (stem : String) (hstem : Lettered stem)
    (value : Json) :
    Making access (s.bindFresh stem value).1 fixed (numbered stem s.issued :: pending) where
  access_eq := h.access_eq
  readable := h.readable
  fresh := h.fresh.bindFresh hstem value
  bound_once := by
    have hnew := h.fresh stem s.issued hstem (Nat.le_refl _)
    rw [mem_params_keys] at hnew
    exact List.nodup_cons.mpr ⟨hnew, h.bound_once⟩
  lettered := by
    intro name hm hl
    rcases List.mem_cons.mp hm with rfl | hm
    · exact absurd rfl (lettered_ne_numbered hl stem s.issued)
    · exact h.lettered name hm hl
  mentioned := fun name => by
    have hbound : name ∈ (s.bindFresh stem value).1.bound ↔
        name = numbered stem s.issued ∨ name ∈ s.bound := List.mem_cons
    rw [hbound, h.mentioned, List.mem_cons]
    exact or_left_comm

theorem bind (h : Making access s fixed pending) (name : String) (hl : Lettered name)
    (hn : name ∉ fixed) (value : Json) :
    Making access (s.bind name value) (name :: fixed) (name :: pending) where
  access_eq := h.access_eq
  readable := h.readable
  fresh := h.fresh.bind hl value
  bound_once := List.nodup_cons.mpr ⟨fun hm => hn (h.lettered name hm hl), h.bound_once⟩
  lettered := by
    intro other hm hother
    rcases List.mem_cons.mp hm with rfl | hm
    · exact List.mem_cons_self
    · exact List.mem_cons_of_mem name (h.lettered other hm hother)
  mentioned := fun other => by
    have hbound : other ∈ (s.bind name value).bound ↔ other = name ∨ other ∈ s.bound :=
      List.mem_cons
    rw [hbound, h.mentioned, List.mem_cons]
    exact or_left_comm

/-- A clause takes the names that it mentions from those that were pending. -/
theorem push (h : Making access s fixed pending) (c : Clause) (rest : List String) (hc : c.Worded)
    (hp : ∀ name, name ∈ pending ↔ name ∈ c.slots ∨ name ∈ rest) :
    Making access (s.push c) fixed rest where
  access_eq := h.access_eq
  readable := by
    intro d hd
    rcases List.mem_append.mp hd with hd | hd
    · exact h.readable d hd
    · exact List.mem_singleton.mp hd ▸ hc.readable
  fresh := h.fresh.push c
  bound_once := h.bound_once
  lettered := h.lettered
  mentioned := fun name => by
    have hbound : (s.push c).bound = s.bound := rfl
    have hclauses : (s.push c).clauses = s.clauses ++ [c] := rfl
    rw [hbound, h.mentioned, hp, hclauses, List.flatMap_append, List.mem_append, or_assoc]
    simp

/-! ## Entities -/

theorem vertex (h : Making access s fixed pending) {var vertexId : String} (hvar : Word var)
    {t : Statement} {pattern : VertexPattern} (hv : s.vertex var vertexId = .ok (t, pattern)) :
    Making access t fixed (pattern.slot :: pending) ∧ Word pattern.var ∧ Word pattern.slot := by
  obtain ⟨_, _, hok⟩ := (Checks.bind_eq_ok_iff _ _ _).mp hv
  cases hok
  exact ⟨h.bindFresh "vid" (by decide) _, hvar, word_numbered (by decide) _⟩

theorem createVertex (h : Making access s fixed []) {var vertexId keyProperty : String}
    (hvar : Word var) {node : Node} {category : Category} {t : Statement}
    (hc : s.createVertex var vertexId node category keyProperty = .ok t) :
    Making access t fixed [] := by
  obtain ⟨labels, _, rfl⟩ := createVertex_eq_ok hc
  obtain ⟨_, _, hid, hlabel, hprops⟩ := stems_lettered
  have hbound : Making access (s.bindVertex vertexId node keyProperty) fixed
      [numbered "props" (s.issued + 2), numbered "label" (s.issued + 1), numbered "id" s.issued] :=
    ((h.bindFresh "id" hid _).bindFresh "label" hlabel _).bindFresh "props" hprops _
  have hcreated := hbound.push
    (.createVertex var labels (numbered "id" s.issued) (numbered "label" (s.issued + 1)))
    [numbered "props" (s.issued + 2)]
    ⟨hvar, word_numbered (by decide) _, word_numbered (by decide) _⟩ (by
      intro name
      simp only [Clause.slots, List.mem_cons, List.not_mem_nil, or_false]
      exact or_comm.trans (or_congr_left or_comm))
  exact hcreated.push (.mergeProperties var (numbered "props" (s.issued + 2))) _
    ⟨hvar, word_numbered (by decide) _⟩ (by simp [Clause.slots])

theorem createEdge (h : Making access s fixed []) {origin head : String} (ho : Word origin)
    (hh : Word head) (ids : EdgeIds) (relation : Identifier) :
    Making access (s.createEdge ids origin relation head) fixed [] := by
  have hbound := h.bindFresh "eid" (by decide) (.string (ids s.issued))
  have hslot : Word (numbered "eid" s.issued) := word_numbered (by decide) _
  exact hbound.push (.createEdge ⟨origin, relation, numbered "eid" s.issued, head⟩) _
    ⟨ho, hh, hslot⟩ (by simp [Clause.slots])

theorem linkIfFound (h : Making access s fixed []) {ids : EdgeIds} {var relation otherId : String}
    (hvar : Word var) {direction : Direction} {t : Statement}
    (hl : s.linkIfFound ids var direction relation otherId = .ok t) :
    Making access t fixed [] := by
  obtain ⟨relation, _, hl⟩ := (Checks.bind_eq_ok_iff _ _ _).mp hl
  obtain ⟨⟨s₁, pattern⟩, hv, hl⟩ := (Checks.bind_eq_ok_iff _ _ _).mp hl
  cases hl
  have hother : Word ("o" ++ decimalText s.params.size) := by simp +decide
  obtain ⟨hvertex, hpattern⟩ := h.vertex hother hv
  have hbound : Making access (s₁.bindEdgeId ids).1 fixed
      [numbered "eid" s₁.issued, pattern.slot] :=
    hvertex.bindFresh "eid" (by decide) (.string (ids s₁.issued))
  have hslot : Word (numbered "eid" s₁.issued) := word_numbered (by decide) _
  have hkeep := hbound.push (.keep var) [numbered "eid" s₁.issued, pattern.slot]
    hvar (by simp [Clause.slots])
  have hfind := hkeep.push (.findOptional pattern) [numbered "eid" s₁.issued]
    hpattern (by simp [Clause.slots, or_comm])
  have hedge : ∀ edge : EdgePattern, Word edge.origin → Word edge.head →
      edge.slot = numbered "eid" s₁.issued → Making access ((((s₁.bindEdgeId ids).1.push
        (.keep var)).push (.findOptional pattern)).push (.createEdgeIfFound
          ("o" ++ decimalText s.params.size) edge)) fixed [] :=
    fun edge ho hh hs => hfind.push (.createEdgeIfFound _ edge) _ ⟨hother, ho, hh, hs ▸ hslot⟩
      (by simp [Clause.slots, hs])
  cases direction with
  | incoming => exact hedge _ hother hvar rfl
  | outgoing => exact hedge _ hvar hother rfl
  | both => exact hedge _ hvar hother rfl

theorem linkAll {ids : EdgeIds} {var : String} (hvar : Word var)
    {encode : String → Except DomainError String} {links : List (Direction × String × String)}
    (h : Making access s fixed []) {t : Statement}
    (hl : Statement.linkAll ids var encode s links = .ok t) : Making access t fixed [] := by
  induction links generalizing s with
  | nil =>
    cases hl
    exact h
  | cons link links ih =>
    obtain ⟨direction, relation, key⟩ := link
    obtain ⟨otherId, _, hl⟩ := (Checks.bind_eq_ok_iff _ _ _).mp hl
    obtain ⟨s₁, hlink, hl⟩ := (Checks.bind_eq_ok_iff _ _ _).mp hl
    exact ih (h.linkIfFound hvar hlink) hl

end Making

end Statement

end DeviceGraph
