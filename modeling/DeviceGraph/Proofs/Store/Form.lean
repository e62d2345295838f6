import DeviceGraph.Proofs.Search.Form
import DeviceGraph.Proofs.Store.Call
import DeviceGraph.Proofs.Store.Edge

/-!
# Calls of one form

Calls that differ only in natural keys, property values, the path of a group above and
the bounds of a page say the same to the engine up to the values of parameters.
-/

set_option autoImplicit false

namespace DeviceGraph

open Statement Identity

def Entries.shape (entries : List (String × Json)) : List (String × Bool) :=
  entries.map fun entry => (entry.1, entry.2.isNull)

def Relations.shape (r : Relations) : List (Direction × String) :=
  r.entries.map fun entry => (entry.1, entry.2.1)

structure RelatedQuery.SameForm (q q' : RelatedQuery) : Prop where
  relation : q.relation = q'.relation
  direction : q.direction = q'.direction
  template : q.template = q'.template
  filter : Entries.shape q.filter.entries = Entries.shape q'.filter.entries
  page : q.page.isSome = q'.page.isSome

namespace Store

variable {s t s' t' : Statement} {ids ids' : EdgeIds}

/-! ## Any entity -/

theorem labels_form {id id' : String} (hid : SameCategory id id')
    (hs : labelsStatement id = .ok s) (ht : labelsStatement id' = .ok t) : s.SameForm t := by
  obtain ⟨⟨s₁, p⟩, hp, hs⟩ := (Checks.bind_eq_ok_iff _ _ _).mp hs
  obtain ⟨⟨t₁, q⟩, hq, ht⟩ := (Checks.bind_eq_ok_iff _ _ _).mp ht
  obtain ⟨hvertex, rfl⟩ := (SameForm.refl _).vertex hid hp hq
  cases hs
  cases ht
  exact (hvertex.push rfl).push rfl

theorem filterPredicates_form {entries entries' : List (String × Json)}
    (he : Entries.shape entries = Entries.shape entries') (h : s.SameForm t)
    {ps qs : List (List Piece)} (hs : filterPredicates s entries = .ok (s', ps))
    (ht : filterPredicates t entries' = .ok (t', qs)) : s'.SameForm t' ∧ ps = qs := by
  induction entries generalizing entries' s t ps qs with
  | nil =>
    cases List.map_eq_nil_iff.mp he.symm
    cases hs
    cases ht
    exact ⟨h, rfl⟩
  | cons entry entries ih =>
    obtain ⟨entry', rest', rfl, hentry, hrest⟩ := List.map_eq_cons_iff.mp he.symm
    obtain ⟨key, value⟩ := entry
    obtain ⟨key', value'⟩ := entry'
    simp only [Prod.mk.injEq] at hentry
    obtain ⟨rfl, hnull⟩ := hentry
    obtain ⟨name, _, hs, ht⟩ := Checks.bind_eq_ok_same hs ht
    rw [hnull] at ht
    split at hs
    · next hn =>
      rw [if_pos hn] at ht
      obtain ⟨⟨s₁, others⟩, hmore, hs⟩ := (Checks.bind_eq_ok_iff _ _ _).mp hs
      obtain ⟨⟨t₁, others'⟩, hmore', ht⟩ := (Checks.bind_eq_ok_iff _ _ _).mp ht
      cases hs
      cases ht
      obtain ⟨h₁, rfl⟩ := ih hrest.symm h hmore hmore'
      exact ⟨h₁, rfl⟩
    · next hn =>
      rw [if_neg hn] at ht
      obtain ⟨⟨s₁, others⟩, hmore, hs⟩ := (Checks.bind_eq_ok_iff _ _ _).mp hs
      obtain ⟨⟨t₁, others'⟩, hmore', ht⟩ := (Checks.bind_eq_ok_iff _ _ _).mp ht
      cases hs
      cases ht
      obtain ⟨h₁, rfl⟩ := ih hrest.symm (h.bindFresh "f" _ _) hmore hmore'
      exact ⟨h₁, by rw [h.issued]⟩

theorem slicePieces_form (h : s.SameForm t) {page page' : Option Page}
    (hp : page.isSome = page'.isSome) :
    (slicePieces s page).1.SameForm (slicePieces t page').1 ∧
      (slicePieces s page).2 = (slicePieces t page').2 := by
  obtain ⟨rfl, rfl⟩ | ⟨page, page', rfl, rfl⟩ := none_or_some_of_isSome_eq hp
  · exact ⟨h, rfl⟩
  · exact ⟨(h.bind "offset" _ _).bind "end" _ _, rfl⟩

theorem related_form {id id' : String} (hid : SameCategory id id') {q q' : RelatedQuery}
    (hq : q.SameForm q') (hs : relatedStatement id q = .ok s)
    (ht : relatedStatement id' q' = .ok t) : s.SameForm t := by
  obtain ⟨⟨s₁, root⟩, hroot, hs⟩ := (Checks.bind_eq_ok_iff _ _ _).mp hs
  obtain ⟨⟨t₁, root'⟩, hroot', ht⟩ := (Checks.bind_eq_ok_iff _ _ _).mp ht
  rw [hq.relation, hq.direction, hq.template] at hs
  obtain ⟨pattern, _, hs, ht⟩ := Checks.bind_eq_ok_same hs ht
  obtain ⟨⟨s₂, predicates⟩, hfilter, hs⟩ := (Checks.bind_eq_ok_iff _ _ _).mp hs
  obtain ⟨⟨t₂, predicates'⟩, hfilter', ht⟩ := (Checks.bind_eq_ok_iff _ _ _).mp ht
  obtain ⟨h₁, rfl⟩ := (SameForm.refl _).vertex hid hroot hroot'
  obtain ⟨h₂, rfl⟩ := filterPredicates_form hq.filter h₁ hfilter hfilter'
  obtain ⟨h₃, hslice⟩ := slicePieces_form h₂ hq.page
  dsimp only at hs ht
  rcases hpage : slicePieces s₂ q.page with ⟨s₃, slice⟩
  rcases hpage' : slicePieces t₂ q'.page with ⟨t₃, slice'⟩
  rw [hpage] at hs h₃ hslice
  rw [hpage'] at ht h₃ hslice
  cases hslice
  cases hs
  cases ht
  exact (((h₃.push rfl).push rfl).push rfl).push rfl

theorem bindChanges_form {entries entries' : List (String × Json)}
    (he : Entries.shape entries = Entries.shape entries') (h : s.SameForm t)
    {changes changes' : Changes} (hs : bindChanges s entries = .ok (s', changes))
    (ht : bindChanges t entries' = .ok (t', changes')) :
    s'.SameForm t' ∧ changes = changes' := by
  induction entries generalizing entries' s t changes changes' with
  | nil =>
    cases List.map_eq_nil_iff.mp he.symm
    cases hs
    cases ht
    exact ⟨h, rfl⟩
  | cons entry entries ih =>
    obtain ⟨entry', rest', rfl, hentry, hrest⟩ := List.map_eq_cons_iff.mp he.symm
    obtain ⟨key, value⟩ := entry
    obtain ⟨key', value'⟩ := entry'
    simp only [Prod.mk.injEq] at hentry
    obtain ⟨rfl, hnull⟩ := hentry
    rw [bindChanges] at hs ht
    split at hs
    · next hr =>
      rw [if_pos hr] at ht
      exact ih hrest.symm h hs ht
    · next hr =>
      rw [if_neg hr] at ht
      obtain ⟨name, _, hs, ht⟩ := Checks.bind_eq_ok_same hs ht
      rw [hnull] at ht
      split at hs
      · next hn =>
        rw [if_pos hn] at ht
        obtain ⟨⟨s₁, others⟩, hmore, hs⟩ := (Checks.bind_eq_ok_iff _ _ _).mp hs
        obtain ⟨⟨t₁, others'⟩, hmore', ht⟩ := (Checks.bind_eq_ok_iff _ _ _).mp ht
        cases hs
        cases ht
        obtain ⟨h₁, rfl⟩ := ih hrest.symm h hmore hmore'
        exact ⟨h₁, rfl⟩
      · next hn =>
        rw [if_neg hn] at ht
        obtain ⟨⟨s₁, others⟩, hmore, hs⟩ := (Checks.bind_eq_ok_iff _ _ _).mp hs
        obtain ⟨⟨t₁, others'⟩, hmore', ht⟩ := (Checks.bind_eq_ok_iff _ _ _).mp ht
        cases hs
        cases ht
        obtain ⟨h₁, rfl⟩ := ih hrest.symm (h.bindFresh "p" _ _) hmore hmore'
        exact ⟨h₁, by rw [h.issued]⟩

theorem update_form {id id' : String} (hid : SameCategory id id')
    {attributes attributes' : Dict Json}
    (ha : Entries.shape attributes.entries = Entries.shape attributes'.entries)
    {statement statement' : Option Statement} (hs : updateStatement id attributes = .ok statement)
    (ht : updateStatement id' attributes' = .ok statement') :
    statement.map (·.text) = statement'.map (·.text) := by
  obtain ⟨⟨s₁, p⟩, hp, hs⟩ := (Checks.bind_eq_ok_iff _ _ _).mp hs
  obtain ⟨⟨s₂, changes⟩, hchanges, hs⟩ := (Checks.bind_eq_ok_iff _ _ _).mp hs
  obtain ⟨⟨t₁, q⟩, hq, ht⟩ := (Checks.bind_eq_ok_iff _ _ _).mp ht
  obtain ⟨⟨t₂, changes'⟩, hchanges', ht⟩ := (Checks.bind_eq_ok_iff _ _ _).mp ht
  obtain ⟨h₁, rfl⟩ := (SameForm.refl _).vertex hid hp hq
  obtain ⟨h₂, rfl⟩ := bindChanges_form ha h₁ hchanges hchanges'
  have hfound := h₂.push (c := .findVertices [p]) rfl
  dsimp only at hs ht
  split at hs
  · next hnone =>
    rw [if_pos hnone] at ht
    cases hs
    cases ht
    rfl
  · next hsome =>
    rw [if_neg hsome] at ht
    cases hs
    cases ht
    have hset := hfound.ite (p := changes.sets = [])
      (hfound.push (c := .setProperties "v" changes.sets) rfl)
    split
    · exact congrArg some hset.text_eq
    · exact congrArg some (hset.push rfl).text_eq

theorem delete_form {id id' : String} (hid : SameCategory id id')
    (hs : deleteStatement id = .ok s) (ht : deleteStatement id' = .ok t) : s.SameForm t := by
  obtain ⟨⟨s₁, p⟩, hp, hs⟩ := (Checks.bind_eq_ok_iff _ _ _).mp hs
  obtain ⟨⟨t₁, q⟩, hq, ht⟩ := (Checks.bind_eq_ok_iff _ _ _).mp ht
  obtain ⟨hvertex, rfl⟩ := (SameForm.refl _).vertex hid hp hq
  cases hs
  cases ht
  exact (hvertex.push rfl).push rfl

/-! ## Devices -/

namespace Devices

theorem createComponents_form {device device' : String} {components components' : List Node}
    (hc : components.map (·.types) = components'.map (·.types)) {i : Nat} (h : s.SameForm t)
    (hs : createComponents ids device s i components = .ok s')
    (ht : createComponents ids' device' t i components' = .ok t') : s'.SameForm t' := by
  induction components generalizing components' s t i with
  | nil =>
    cases List.map_eq_nil_iff.mp hc.symm
    cases hs
    cases ht
    exact h
  | cons component components ih =>
    obtain ⟨component', rest', rfl, htypes, hrest⟩ := List.map_eq_cons_iff.mp hc.symm
    obtain ⟨id, _, hs⟩ := (Checks.bind_eq_ok_iff _ _ _).mp hs
    obtain ⟨s₁, hone, hs⟩ := (Checks.bind_eq_ok_iff _ _ _).mp hs
    obtain ⟨id', _, ht⟩ := (Checks.bind_eq_ok_iff _ _ _).mp ht
    obtain ⟨t₁, hone', ht⟩ := (Checks.bind_eq_ok_iff _ _ _).mp ht
    have h₁ := h.createVertex htypes.symm hone hone'
    exact ih hrest.symm (h₁.createEdge ids ids' _ _ _) hs ht

theorem create_form {device device' : Node} (hd : device.types = device'.types)
    {groups groups' devices devices' : Relations} (hg : groups.shape = groups'.shape)
    (hr : devices.shape = devices'.shape) {components components' : List Node}
    (hc : components.map (·.types) = components'.map (·.types)) {id id' : String}
    (hs : createStatement ids device groups devices components = .ok (id, s))
    (ht : createStatement ids' device' groups' devices' components' = .ok (id', t)) :
    s.SameForm t := by
  obtain ⟨key, _, hs⟩ := (Checks.bind_eq_ok_iff _ _ _).mp hs
  obtain ⟨s₁, hdevice, hs⟩ := (Checks.bind_eq_ok_iff _ _ _).mp hs
  obtain ⟨s₂, hcomponents, hs⟩ := (Checks.bind_eq_ok_iff _ _ _).mp hs
  obtain ⟨s₃, hgroups, hs⟩ := (Checks.bind_eq_ok_iff _ _ _).mp hs
  obtain ⟨s₄, hdevices, hs⟩ := (Checks.bind_eq_ok_iff _ _ _).mp hs
  obtain ⟨key', _, ht⟩ := (Checks.bind_eq_ok_iff _ _ _).mp ht
  obtain ⟨t₁, hdevice', ht⟩ := (Checks.bind_eq_ok_iff _ _ _).mp ht
  obtain ⟨t₂, hcomponents', ht⟩ := (Checks.bind_eq_ok_iff _ _ _).mp ht
  obtain ⟨t₃, hgroups', ht⟩ := (Checks.bind_eq_ok_iff _ _ _).mp ht
  obtain ⟨t₄, hdevices', ht⟩ := (Checks.bind_eq_ok_iff _ _ _).mp ht
  cases hs
  cases ht
  have h₁ := (SameForm.refl _).createVertex hd hdevice hdevice'
  have h₂ := createComponents_form hc h₁ hcomponents hcomponents'
  have h₃ := h₂.linkAll sameCategory_of_encode hg hgroups hgroups'
  exact h₃.linkAll sameCategory_of_encode hr hdevices hdevices'

theorem createComponent_form {device device' : String} {component component' : Node}
    (hc : component.types = component'.types) {id id' : String}
    (hs : createComponentStatement ids device component = .ok (id, s))
    (ht : createComponentStatement ids' device' component' = .ok (id', t)) : s.SameForm t := by
  obtain ⟨key, hkey, hs⟩ := (Checks.bind_eq_ok_iff _ _ _).mp hs
  obtain ⟨componentId, _, hs⟩ := (Checks.bind_eq_ok_iff _ _ _).mp hs
  obtain ⟨⟨s₁, p⟩, hp, hs⟩ := (Checks.bind_eq_ok_iff _ _ _).mp hs
  obtain ⟨s₂, hcreate, hs⟩ := (Checks.bind_eq_ok_iff _ _ _).mp hs
  obtain ⟨key', hkey', ht⟩ := (Checks.bind_eq_ok_iff _ _ _).mp ht
  obtain ⟨componentId', _, ht⟩ := (Checks.bind_eq_ok_iff _ _ _).mp ht
  obtain ⟨⟨t₁, q⟩, hq, ht⟩ := (Checks.bind_eq_ok_iff _ _ _).mp ht
  obtain ⟨t₂, hcreate', ht⟩ := (Checks.bind_eq_ok_iff _ _ _).mp ht
  cases hs
  cases ht
  obtain ⟨h₁, rfl⟩ := (SameForm.refl _).vertex (sameCategory_of_encode hkey hkey') hp hq
  exact ((h₁.push rfl).createVertex hc hcreate hcreate').createEdge ids ids' _ _ _

theorem edgeCondition_form (h : s.SameForm t) (options : ReadOptions) :
    (edgeCondition s options).1.SameForm (edgeCondition t options).1 ∧
      (edgeCondition s options).2 = (edgeCondition t options).2 := by
  rcases options with ⟨_ | _, _ | _, _⟩
  · exact ⟨h, rfl⟩
  · exact ⟨h.bind "component_of" _ _, rfl⟩
  · exact ⟨h.bind "component_of" _ _, rfl⟩
  · exact ⟨h, rfl⟩

theorem get_form {devices devices' : List String} {options : ReadOptions}
    (hs : getStatement devices options = .ok s) (ht : getStatement devices' options = .ok t) :
    s.SameForm t := by
  obtain ⟨keys, _, hs⟩ := (Checks.bind_eq_ok_iff _ _ _).mp hs
  obtain ⟨keys', _, ht⟩ := (Checks.bind_eq_ok_iff _ _ _).mp ht
  obtain ⟨root, _, hs, ht⟩ := Checks.bind_eq_ok_same hs ht
  have hfound := ((SameForm.refl { access := .read }).bind "ids" (.ofStrings keys)
    (.ofStrings keys')).push (c := .written [.text "MATCH (v:", .name Category.device.identifier,
      .text ") WHERE v.id IN ", .slot "ids"]) rfl
  dsimp only at hs ht
  split at hs
  · next haround =>
    rw [if_pos haround] at ht
    obtain ⟨h₁, hcondition⟩ := edgeCondition_form hfound options
    cases hs
    cases ht
    exact h₁.push (by rw [hcondition])
  · next hplain =>
    rw [if_neg hplain] at ht
    cases hs
    cases ht
    exact hfound.push rfl

theorem delete_form {device device' : String} (hs : deleteStatement device = .ok s)
    (ht : deleteStatement device' = .ok t) : s.SameForm t := by
  obtain ⟨key, hkey, hs⟩ := (Checks.bind_eq_ok_iff _ _ _).mp hs
  obtain ⟨⟨s₁, p⟩, hp, hs⟩ := (Checks.bind_eq_ok_iff _ _ _).mp hs
  obtain ⟨key', hkey', ht⟩ := (Checks.bind_eq_ok_iff _ _ _).mp ht
  obtain ⟨⟨t₁, q⟩, hq, ht⟩ := (Checks.bind_eq_ok_iff _ _ _).mp ht
  obtain ⟨h₁, rfl⟩ := (SameForm.refl _).vertex (sameCategory_of_encode hkey hkey') hp hq
  cases hs
  cases ht
  exact ((h₁.push rfl).push rfl).push rfl

end Devices

/-! ## Groups -/

namespace Groups

theorem get_form {groups groups' : List String} {withRelated : Bool}
    (hs : getStatement groups withRelated = .ok s)
    (ht : getStatement groups' withRelated = .ok t) : s.SameForm t := by
  obtain ⟨keys, _, hs⟩ := (Checks.bind_eq_ok_iff _ _ _).mp hs
  obtain ⟨keys', _, ht⟩ := (Checks.bind_eq_ok_iff _ _ _).mp ht
  have hfound := ((SameForm.refl { access := .read }).bind "ids" (.ofStrings keys)
    (.ofStrings keys')).push (c := .written [.text "MATCH (main:",
      .name Category.group.identifier, .text ") WHERE main.id IN ", .slot "ids"]) rfl
  dsimp only at hs ht
  split at hs
  · next hrelated =>
    rw [if_pos hrelated] at ht
    obtain ⟨outgoing, _, hs, ht⟩ := Checks.bind_eq_ok_same hs ht
    obtain ⟨incoming, _, hs, ht⟩ := Checks.bind_eq_ok_same hs ht
    cases hs
    cases ht
    exact (hfound.bind "parent" _ _).push rfl
  · next hplain =>
    rw [if_neg hplain] at ht
    cases hs
    cases ht
    exact hfound.push rfl

theorem ancestors_form {group group' : String} (hs : ancestorsStatement group = .ok s)
    (ht : ancestorsStatement group' = .ok t) : s.SameForm t := by
  obtain ⟨key, hkey, hs⟩ := (Checks.bind_eq_ok_iff _ _ _).mp hs
  obtain ⟨⟨s₁, p⟩, hp, hs⟩ := (Checks.bind_eq_ok_iff _ _ _).mp hs
  obtain ⟨key', hkey', ht⟩ := (Checks.bind_eq_ok_iff _ _ _).mp ht
  obtain ⟨⟨t₁, q⟩, hq, ht⟩ := (Checks.bind_eq_ok_iff _ _ _).mp ht
  obtain ⟨h₁, rfl⟩ := (SameForm.refl _).vertex (sameCategory_of_encode hkey hkey') hp hq
  cases hs
  cases ht
  exact (h₁.push rfl).push rfl

theorem findParent_form (h : s.SameForm t) {parent parent' : Option String}
    (hp : parent.isSome = parent'.isSome) (hs : findParent s parent = .ok s')
    (ht : findParent t parent' = .ok t') : s'.SameForm t' := by
  obtain ⟨rfl, rfl⟩ | ⟨path, path', rfl, rfl⟩ := none_or_some_of_isSome_eq hp
  · cases hs
    cases ht
    exact h
  · obtain ⟨key, hkey, hs⟩ := (Checks.bind_eq_ok_iff _ _ _).mp hs
    obtain ⟨⟨s₁, p⟩, hp, hs⟩ := (Checks.bind_eq_ok_iff _ _ _).mp hs
    obtain ⟨key', hkey', ht⟩ := (Checks.bind_eq_ok_iff _ _ _).mp ht
    obtain ⟨⟨t₁, q⟩, hq, ht⟩ := (Checks.bind_eq_ok_iff _ _ _).mp ht
    obtain ⟨h₁, rfl⟩ := h.vertex (sameCategory_of_encode hkey hkey') hp hq
    cases hs
    cases ht
    exact h₁.push rfl

theorem create_form {group group' : Node} (hg : group.types = group'.types)
    (hp : (parentPath? group).isSome = (parentPath? group').isSome)
    {groups groups' : Relations} (hr : groups.shape = groups'.shape) {id id' : String}
    (hs : createStatement ids group groups = .ok (id, s))
    (ht : createStatement ids' group' groups' = .ok (id', t)) : s.SameForm t := by
  obtain ⟨key, _, hs⟩ := (Checks.bind_eq_ok_iff _ _ _).mp hs
  obtain ⟨s₁, hparent, hs⟩ := (Checks.bind_eq_ok_iff _ _ _).mp hs
  obtain ⟨s₂, hcreate, hs⟩ := (Checks.bind_eq_ok_iff _ _ _).mp hs
  obtain ⟨s₃, hlinks, hs⟩ := (Checks.bind_eq_ok_iff _ _ _).mp hs
  obtain ⟨key', _, ht⟩ := (Checks.bind_eq_ok_iff _ _ _).mp ht
  obtain ⟨t₁, hparent', ht⟩ := (Checks.bind_eq_ok_iff _ _ _).mp ht
  obtain ⟨t₂, hcreate', ht⟩ := (Checks.bind_eq_ok_iff _ _ _).mp ht
  obtain ⟨t₃, hlinks', ht⟩ := (Checks.bind_eq_ok_iff _ _ _).mp ht
  cases hs
  cases ht
  have h₁ := findParent_form (.refl _) hp hparent hparent'
  have h₂ := h₁.createVertex hg hcreate hcreate'
  have h₃ : (if (parentPath? group).isSome then s₂.createEdge ids "v" parentIdentifier "parent"
      else s₂).SameForm (if (parentPath? group').isSome then
        t₂.createEdge ids' "v" parentIdentifier "parent" else t₂) := by
    rw [hp]
    exact (h₂.createEdge ids ids' _ _ _).ite h₂
  exact h₃.linkAll sameCategory_of_encode hr hlinks hlinks'

end Groups

end Store

end DeviceGraph
