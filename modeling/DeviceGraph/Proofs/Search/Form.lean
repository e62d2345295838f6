import DeviceGraph.Proofs.Statement.Form
import DeviceGraph.Search.Statement

/-!
# Searches of one form

Searches that differ only in the values of filters, in the path of the group above and
in the bounds of the page are written in the same way.
-/

set_option autoImplicit false

namespace DeviceGraph.Search

open Statement

variable {s t s' t' : Statement}

/-- What the text of a search depends on: all but the values and the path. -/
structure Request.SameForm (r q : Request) : Prop where
  types : r.types = q.types
  ancestorPath : r.ancestorPath.isSome = q.ancestorPath.isSome
  summarize : r.summarize = q.summarize
  filters : r.filters.toList.map (fun entry => (entry.1, entry.2.field, entry.2.hops)) =
    q.filters.toList.map (fun entry => (entry.1, entry.2.field, entry.2.hops))

theorem filterCondition_form (h : s.SameForm t) {op : Operator} {f g : Filter}
    (hfield : f.field = g.field) (hhops : f.hops = g.hops) {ps qs : List Piece}
    (hs : filterCondition s op f = .ok (s', ps)) (ht : filterCondition t op g = .ok (t', qs)) :
    s'.SameForm t' ∧ ps = qs := by
  rw [filterCondition, hfield] at hs
  obtain ⟨name, _, hs, ht⟩ := Checks.bind_eq_ok_same hs ht
  have hbound := h.bindFresh "s" f.value g.value
  have hslot : (s.bindFresh "s" f.value).2 = (t.bindFresh "s" g.value).2 := h.slot_eq "s"
  dsimp only at hs ht
  rw [hslot, hbound.size_eq, hhops] at hs
  split at hs
  · next hnil =>
    rw [if_pos hnil] at ht
    cases hs
    cases ht
    exact ⟨hbound, rfl⟩
  · next hcons =>
    rw [if_neg hcons] at ht
    obtain ⟨path, _, hs, ht⟩ := Checks.bind_eq_ok_same hs ht
    cases hs
    cases ht
    exact ⟨hbound, rfl⟩

theorem filterConditions_form {filters filters' : List (Operator × Filter)}
    (hf : filters.map (fun entry => (entry.1, entry.2.field, entry.2.hops)) =
      filters'.map (fun entry => (entry.1, entry.2.field, entry.2.hops)))
    (h : s.SameForm t) {ps qs : List (List Piece)}
    (hs : filterConditions s filters = .ok (s', ps))
    (ht : filterConditions t filters' = .ok (t', qs)) : s'.SameForm t' ∧ ps = qs := by
  induction filters generalizing filters' s t ps qs with
  | nil =>
    cases List.map_eq_nil_iff.mp hf.symm
    cases hs
    cases ht
    exact ⟨h, rfl⟩
  | cons entry filters ih =>
    obtain ⟨entry', rest', rfl, hentry, hrest⟩ := List.map_eq_cons_iff.mp hf.symm
    obtain ⟨op, f⟩ := entry
    obtain ⟨op', g⟩ := entry'
    simp only [Prod.mk.injEq] at hentry
    obtain ⟨rfl, hfield, hhops⟩ := hentry
    obtain ⟨⟨s₁, condition⟩, hone, hs⟩ := (Checks.bind_eq_ok_iff _ _ _).mp hs
    obtain ⟨⟨s₂, others⟩, hmore, hs⟩ := (Checks.bind_eq_ok_iff _ _ _).mp hs
    obtain ⟨⟨t₁, condition'⟩, hone', ht⟩ := (Checks.bind_eq_ok_iff _ _ _).mp ht
    obtain ⟨⟨t₂, others'⟩, hmore', ht⟩ := (Checks.bind_eq_ok_iff _ _ _).mp ht
    cases hs
    cases ht
    obtain ⟨h₁, rfl⟩ := filterCondition_form h hfield.symm hhops.symm hone hone'
    obtain ⟨h₂, rfl⟩ := ih hrest.symm h₁ hmore hmore'
    exact ⟨h₂, rfl⟩

theorem ancestorConditions_form (h : s.SameForm t) {path path' : Option String}
    (hp : path.isSome = path'.isSome) {ps qs : List (List Piece)}
    (hs : ancestorConditions s path = .ok (s', ps))
    (ht : ancestorConditions t path' = .ok (t', qs)) : s'.SameForm t' ∧ ps = qs := by
  obtain ⟨rfl, rfl⟩ | ⟨path, path', rfl, rfl⟩ := none_or_some_of_isSome_eq hp
  · cases hs
    cases ht
    exact ⟨h, rfl⟩
  · obtain ⟨id, _, hs⟩ := (Checks.bind_eq_ok_iff _ _ _).mp hs
    obtain ⟨id', _, ht⟩ := (Checks.bind_eq_ok_iff _ _ _).mp ht
    cases hs
    cases ht
    exact ⟨h.bind "ancestor" _ _, rfl⟩

theorem pushPage_form (h : s.SameForm t) {page page' : Option Page}
    (hp : page.isSome = page'.isSome) : (pushPage s page).SameForm (pushPage t page') := by
  have hordered := h.push (c := .written [.text "WITH DISTINCT n\nORDER BY n.id"]) rfl
  obtain ⟨rfl, rfl⟩ | ⟨page, page', rfl, rfl⟩ := none_or_some_of_isSome_eq hp
  · exact hordered.push rfl
  · exact (((hordered.bind "offset" _ _).bind "count" _ _).push rfl).push rfl

theorem Request.SameForm.statement {r q : Request} (h : r.SameForm q) {page page' : Option Page}
    (hp : page.isSome = page'.isSome) (hs : r.statement page = .ok s)
    (ht : q.statement page' = .ok t) : s.SameForm t := by
  rw [Request.statement, h.types] at hs
  obtain ⟨types, _, hs, ht⟩ := Checks.bind_eq_ok_same hs ht
  obtain ⟨⟨s₁, ancestor⟩, hancestor, hs⟩ := (Checks.bind_eq_ok_iff _ _ _).mp hs
  obtain ⟨⟨s₂, filters⟩, hfilters, hs⟩ := (Checks.bind_eq_ok_iff _ _ _).mp hs
  obtain ⟨⟨t₁, ancestor'⟩, hancestor', ht⟩ := (Checks.bind_eq_ok_iff _ _ _).mp ht
  obtain ⟨⟨t₂, filters'⟩, hfilters', ht⟩ := (Checks.bind_eq_ok_iff _ _ _).mp ht
  obtain ⟨h₁, rfl⟩ := ancestorConditions_form (.refl _) h.ancestorPath hancestor hancestor'
  obtain ⟨h₂, rfl⟩ := filterConditions_form h.filters h₁ hfilters hfilters'
  cases hs
  cases ht
  have hmatch := h₂.push (c := .written [.text "MATCH (n)"]) rfl
  have hwhere : ∀ conditions : List (List Piece),
      (if conditions = [] then s₂.push (.written [.text "MATCH (n)"])
        else (s₂.push (.written [.text "MATCH (n)"])).push
          (.written (.text "WHERE " :: joinPieces "\n  AND " conditions))).SameForm
      (if conditions = [] then t₂.push (.written [.text "MATCH (n)"])
        else (t₂.push (.written [.text "MATCH (n)"])).push
          (.written (.text "WHERE " :: joinPieces "\n  AND " conditions))) :=
    fun _ => hmatch.ite (hmatch.push rfl)
  rw [← h.summarize]
  split
  · exact (hwhere _).push rfl
  · exact pushPage_form (hwhere _) hp

end DeviceGraph.Search
