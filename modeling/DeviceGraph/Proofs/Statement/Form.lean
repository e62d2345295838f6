import DeviceGraph.Proofs.Identity
import DeviceGraph.Proofs.Statement.Records

/-!
# Statements of one form

Two statements have one form when they agree in everything but the values of their
parameters. A step that is given other values keeps this, since variables and
parameter names come from the number of parameters and never from a value.
-/

set_option autoImplicit false

namespace DeviceGraph

variable {α β : Type}

theorem none_or_some_of_isSome_eq {a : Option α} {b : Option β} (h : a.isSome = b.isSome) :
    (a = none ∧ b = none) ∨ ∃ x y, a = some x ∧ b = some y := by
  cases a with
  | none =>
    exact .inl ⟨rfl, Option.isNone_iff_eq_none.mp (Option.isSome_eq_false_iff.mp h.symm)⟩
  | some x =>
    obtain ⟨y, rfl⟩ := Option.isSome_iff_exists.mp h.symm
    exact .inr ⟨x, y, rfl, rfl⟩

theorem Entries.keys_insert_congr {entries : List (String × α)} {entries' : List (String × β)}
    (h : entries.map (·.1) = entries'.map (·.1)) (key : String) (a : α) (b : β) :
    (insert key a entries).map (·.1) = (insert key b entries').map (·.1) := by
  induction entries generalizing entries' with
  | nil =>
    cases List.map_eq_nil_iff.mp h.symm
    rfl
  | cons entry rest ih =>
    obtain ⟨entry', rest', rfl, hkey, hrest⟩ := List.map_eq_cons_iff.mp h.symm
    obtain ⟨k, v⟩ := entry
    obtain ⟨k', v'⟩ := entry'
    cases hkey
    rw [insert, insert]
    split
    · simpa using hrest.symm
    · split
      · simpa using hrest.symm
      · simpa using ih hrest.symm

theorem Dict.keys_insert_congr {d : Dict α} {d' : Dict β} (h : d.keys = d'.keys) (key : String)
    (a : α) (b : β) : (d.insert key a).keys = (d'.insert key b).keys :=
  Entries.keys_insert_congr h key a b

namespace Identity

def SameCategory (id id' : String) : Prop := ∀ c, isCategory id c = isCategory id' c

theorem SameCategory.eq {id id' : String} (h : SameCategory id id') {c c' : Category}
    {keys keys' : List String} (hd : decode id = .ok (c, keys))
    (hd' : decode id' = .ok (c', keys')) : c = c' := by
  have hc := h c
  rw [isCategory, isCategory, hd, hd'] at hc
  exact (by simpa using hc.symm : c' = c).symm

theorem sameCategory_of_encode {category : Category} {keys keys' : List String} {id id' : String}
    (h : liftDomain (encode category keys) = .ok id)
    (h' : liftDomain (encode category keys') = .ok id') : SameCategory id id' := by
  rw [liftDomain, Checks.mapError_eq_ok_iff, encode_eq_ok_iff, ← decode_eq_ok_iff] at h h'
  intro c
  rw [isCategory, isCategory, h, h']

end Identity

namespace Statement

structure SameForm (s t : Statement) : Prop where
  clauses : s.clauses = t.clauses
  keys : s.params.keys = t.params.keys
  issued : s.issued = t.issued

namespace SameForm

variable {s t s' t' : Statement}

theorem refl (s : Statement) : SameForm s s := ⟨rfl, rfl, rfl⟩

theorem text_eq (h : SameForm s t) : s.text = t.text := by
  rw [text, text, h.clauses]

theorem size_eq (h : SameForm s t) : s.params.size = t.params.size := by
  have hkeys := congrArg List.length h.keys
  rwa [Dict.keys, Dict.keys, List.length_map, List.length_map] at hkeys

theorem push (h : SameForm s t) {c d : Clause} (hc : c = d) : SameForm (s.push c) (t.push d) where
  clauses := by rw [Statement.push, Statement.push, h.clauses, hc]
  keys := h.keys
  issued := h.issued

theorem bind (h : SameForm s t) (name : String) (v w : Json) :
    SameForm (s.bind name v) (t.bind name w) where
  clauses := h.clauses
  keys := Dict.keys_insert_congr h.keys name v w
  issued := h.issued

theorem slot_eq (h : SameForm s t) (stem : String) :
    numbered stem s.issued = numbered stem t.issued := congrArg (numbered stem) h.issued

theorem ite {p : Prop} [Decidable p] (h : SameForm s t) (h' : SameForm s' t') :
    SameForm (if p then s else s') (if p then t else t') := by
  split
  · exact h
  · exact h'

theorem bindFresh (h : SameForm s t) (stem : String) (v w : Json) :
    SameForm (s.bindFresh stem v).1 (t.bindFresh stem w).1 where
  clauses := h.clauses
  keys := (Dict.keys_insert_congr h.keys (numbered stem s.issued) v w).trans
    (congrArg (fun name => (t.params.insert name w).keys) (h.slot_eq stem))
  issued := congrArg (· + 1) h.issued

/-! ## Entities -/

theorem vertex (h : SameForm s t) {var id id' : String} (hid : Identity.SameCategory id id')
    {p q : VertexPattern} (hs : s.vertex var id = .ok (s', p))
    (ht : t.vertex var id' = .ok (t', q)) : SameForm s' t' ∧ p = q := by
  obtain ⟨⟨c, keys⟩, hc, hs⟩ := (Checks.bind_eq_ok_iff _ _ _).mp hs
  obtain ⟨⟨c', keys'⟩, hc', ht⟩ := (Checks.bind_eq_ok_iff _ _ _).mp ht
  cases hs
  cases ht
  cases hid.eq ((Checks.mapError_eq_ok_iff _ _ _).mp hc) ((Checks.mapError_eq_ok_iff _ _ _).mp hc')
  exact ⟨h.bindFresh "vid" _ _, congrArg (VertexPattern.mk var c.identifier) (h.slot_eq "vid")⟩

theorem labels_eq {node node' : Node} (h : node.types = node'.types) {c : Category}
    {id id' : String} {labels labels' : List Identifier}
    (hl : vertexLabels node c id = .ok labels) (hl' : vertexLabels node' c id' = .ok labels') :
    labels = labels' := by
  rw [vertexLabels] at hl hl'
  rw [← h] at hl'
  split at hl
  · cases hl
  · next hcount =>
    rw [if_neg hcount] at hl'
    exact Except.ok.inj (hl.symm.trans hl')

theorem createVertex (h : SameForm s t) {var id id' key : String} {node node' : Node}
    (hn : node.types = node'.types) {c : Category}
    (hs : s.createVertex var id node c key = .ok s')
    (ht : t.createVertex var id' node' c key = .ok t') : SameForm s' t' := by
  obtain ⟨labels, hl, rfl⟩ := createVertex_eq_ok hs
  obtain ⟨labels', hl', rfl⟩ := createVertex_eq_ok ht
  cases labels_eq hn hl hl'
  have hbound := ((h.bindFresh "id" (.string id) (.string id')).bindFresh "label"
    (.string node.typeChain) (.string node'.typeChain)).bindFresh "props"
      (.ofDict (creationProperties node key)) (.ofDict (creationProperties node' key))
  refine (hbound.push ?_).push ?_
  · rw [h.issued]
  · rw [h.issued]

theorem createEdge (h : SameForm s t) (ids ids' : EdgeIds) (origin : String)
    (relation : Identifier) (head : String) :
    SameForm (s.createEdge ids origin relation head)
      (t.createEdge ids' origin relation head) := by
  refine (h.bindFresh "eid" (.string (ids s.issued)) (.string (ids' t.issued))).push ?_
  rw [h.issued]

theorem linkIfFound (h : SameForm s t) {ids ids' : EdgeIds} {var relation id id' : String}
    (hid : Identity.SameCategory id id') {direction : Direction}
    (hs : s.linkIfFound ids var direction relation id = .ok s')
    (ht : t.linkIfFound ids' var direction relation id' = .ok t') : SameForm s' t' := by
  obtain ⟨name, _, hs, ht⟩ := Checks.bind_eq_ok_same hs ht
  obtain ⟨⟨s₁, p⟩, hp, hs⟩ := (Checks.bind_eq_ok_iff _ _ _).mp hs
  obtain ⟨⟨t₁, q⟩, hq, ht⟩ := (Checks.bind_eq_ok_iff _ _ _).mp ht
  rw [h.size_eq] at hp
  obtain ⟨hvertex, rfl⟩ := h.vertex hid hp hq
  cases hs
  cases ht
  refine (((hvertex.bindFresh "eid" _ _).push rfl).push rfl).push ?_
  rw [h.size_eq, hvertex.issued]

theorem linkAll {encode : String → Except DomainError String} {ids ids' : EdgeIds} {var : String}
    (henc : ∀ {key key' id id'}, liftDomain (encode key) = .ok id →
      liftDomain (encode key') = .ok id' → Identity.SameCategory id id')
    {links links' : List (Direction × String × String)}
    (hl : links.map (fun link => (link.1, link.2.1)) =
      links'.map (fun link => (link.1, link.2.1)))
    (h : SameForm s t) (hs : Statement.linkAll ids var encode s links = .ok s')
    (ht : Statement.linkAll ids' var encode t links' = .ok t') : SameForm s' t' := by
  induction links generalizing links' s t with
  | nil =>
    cases List.map_eq_nil_iff.mp hl.symm
    cases hs
    cases ht
    exact h
  | cons link links ih =>
    obtain ⟨link', rest', rfl, hlink, hrest⟩ := List.map_eq_cons_iff.mp hl.symm
    obtain ⟨direction, relation, key⟩ := link
    obtain ⟨direction', relation', key'⟩ := link'
    cases hlink
    obtain ⟨id, hid, hs⟩ := (Checks.bind_eq_ok_iff _ _ _).mp hs
    obtain ⟨s₁, hone, hs⟩ := (Checks.bind_eq_ok_iff _ _ _).mp hs
    obtain ⟨id', hid', ht⟩ := (Checks.bind_eq_ok_iff _ _ _).mp ht
    obtain ⟨t₁, hone', ht⟩ := (Checks.bind_eq_ok_iff _ _ _).mp ht
    exact ih hrest.symm (h.linkIfFound (henc hid hid') hone hone') hs ht

end SameForm

end Statement

end DeviceGraph
