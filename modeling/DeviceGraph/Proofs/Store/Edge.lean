import DeviceGraph.Proofs.Statement.Closed
import DeviceGraph.Proofs.Statement.Form
import DeviceGraph.Store.Entity

/-!
# Statements about an edge

To make an edge and to remove it, a statement looks for its two ends first. The two
operations differ in no more than what they do between the ends that they found.
-/

set_option autoImplicit false

namespace DeviceGraph.Store

open Statement Identity

variable {s t : Statement} {ids ids' : EdgeIds} {direction : Direction}
  {entity entity' relation other other' : String}

def betweenEnds (finish : Statement → VertexPattern → Identifier → VertexPattern → Statement)
    (entity relation : String) (direction : Direction) (other : String) :
    Except GraphError Statement := do
  let (originId, headId) ← endpoints entity direction other
  let (s, origin) ← ({ access := .write } : Statement).vertex "source" originId
  let (s, head) ← s.vertex "target" headId
  let relation ← Identifier.of relation
  return finish s origin relation head

theorem attachStatement_eq (ids : EdgeIds) :
    attachStatement ids = betweenEnds fun s origin relation head =>
      ((s.bind "edge_id" (.string (ids s.issued))).push (.findVertices [origin, head])).push
        (.createEdge ⟨"source", relation, "edge_id", "target"⟩) := rfl

theorem detachStatement_eq :
    detachStatement = betweenEnds fun s origin relation head =>
      (s.push (.findEdges origin relation head)).push .deleteEdges := rfl

/-! ## What is yet to be mentioned -/

theorem making_betweenEnds
    {finish : Statement → VertexPattern → Identifier → VertexPattern → Statement}
    {fixed : List String}
    (hfinish : ∀ s origin name head, Making .write s [] [head.slot, origin.slot] →
      Word origin.var ∧ Word origin.slot → Word head.var ∧ Word head.slot →
      Making .write (finish s origin name head) fixed [])
    (h : betweenEnds finish entity relation direction other = .ok s) :
    Making .write s fixed [] := by
  obtain ⟨⟨originId, headId⟩, _, h⟩ := (Checks.bind_eq_ok_iff _ _ _).mp h
  obtain ⟨⟨s₁, origin⟩, horigin, h⟩ := (Checks.bind_eq_ok_iff _ _ _).mp h
  obtain ⟨⟨s₂, head⟩, hhead, h⟩ := (Checks.bind_eq_ok_iff _ _ _).mp h
  obtain ⟨name, _, h⟩ := (Checks.bind_eq_ok_iff _ _ _).mp h
  cases h
  obtain ⟨h₁, horigin⟩ := (Making.new .write).vertex (by decide) horigin
  obtain ⟨h₂, hhead⟩ := h₁.vertex (by decide) hhead
  exact hfinish s₂ origin name head h₂ horigin hhead

theorem making_attach (h : attachStatement ids entity relation direction other = .ok s) :
    Making .write s ["edge_id"] [] := by
  rw [attachStatement_eq] at h
  refine making_betweenEnds (fun s origin name head hs horigin hhead => ?_) h
  have hbound := hs.bind "edge_id" (by decide) (by decide) (.string (ids s.issued))
  have hfound := hbound.push (.findVertices [origin, head]) ["edge_id"]
    (by simpa [Clause.Worded] using ⟨horigin, hhead⟩) (by simp [Clause.slots, or_comm])
  exact hfound.push (.createEdge ⟨"source", name, "edge_id", "target"⟩) _
    (by simp +decide [Clause.Worded]) (by simp [Clause.slots])

theorem making_detach (h : detachStatement entity relation direction other = .ok s) :
    Making .write s [] [] := by
  rw [detachStatement_eq] at h
  refine making_betweenEnds (fun s origin name head hs horigin hhead => ?_) h
  have hfound := hs.push (.findEdges origin name head) [] ⟨horigin, hhead⟩
    (by simp [Clause.slots, or_comm])
  exact hfound.push .deleteEdges _ trivial (by simp [Clause.slots])

/-! ## Two statements of one form -/

theorem endpoints_form (he : SameCategory entity entity') (ho : SameCategory other other')
    {ends ends' : String × String} (h : endpoints entity direction other = .ok ends)
    (h' : endpoints entity' direction other' = .ok ends') :
    SameCategory ends.1 ends'.1 ∧ SameCategory ends.2 ends'.2 := by
  cases direction with
  | incoming =>
    cases h
    cases h'
    exact ⟨ho, he⟩
  | outgoing =>
    cases h
    cases h'
    exact ⟨he, ho⟩
  | both => cases h

theorem betweenEnds_form
    {finish finish' : Statement → VertexPattern → Identifier → VertexPattern → Statement}
    (hfinish : ∀ {s t : Statement}, s.SameForm t → ∀ origin name head,
      (finish s origin name head).SameForm (finish' t origin name head))
    (he : SameCategory entity entity') (ho : SameCategory other other')
    (hs : betweenEnds finish entity relation direction other = .ok s)
    (ht : betweenEnds finish' entity' relation direction other' = .ok t) : s.SameForm t := by
  obtain ⟨ends, hends, hs⟩ := (Checks.bind_eq_ok_iff _ _ _).mp hs
  obtain ⟨⟨s₁, p⟩, hp, hs⟩ := (Checks.bind_eq_ok_iff _ _ _).mp hs
  obtain ⟨⟨s₂, q⟩, hq, hs⟩ := (Checks.bind_eq_ok_iff _ _ _).mp hs
  obtain ⟨ends', hends', ht⟩ := (Checks.bind_eq_ok_iff _ _ _).mp ht
  obtain ⟨⟨t₁, p'⟩, hp', ht⟩ := (Checks.bind_eq_ok_iff _ _ _).mp ht
  obtain ⟨⟨t₂, q'⟩, hq', ht⟩ := (Checks.bind_eq_ok_iff _ _ _).mp ht
  obtain ⟨name, _, hs, ht⟩ := Checks.bind_eq_ok_same hs ht
  obtain ⟨horigin, hhead⟩ := endpoints_form he ho hends hends'
  obtain ⟨h₁, rfl⟩ := (SameForm.refl _).vertex horigin hp hp'
  obtain ⟨h₂, rfl⟩ := h₁.vertex hhead hq hq'
  cases hs
  cases ht
  exact hfinish h₂ p name q

theorem attach_form (he : SameCategory entity entity') (ho : SameCategory other other')
    (hs : attachStatement ids entity relation direction other = .ok s)
    (ht : attachStatement ids' entity' relation direction other' = .ok t) : s.SameForm t := by
  rw [attachStatement_eq] at hs ht
  refine betweenEnds_form (fun h origin name head => ?_) he ho hs ht
  exact ((h.bind "edge_id" _ _).push rfl).push rfl

theorem detach_form (he : SameCategory entity entity') (ho : SameCategory other other')
    (hs : detachStatement entity relation direction other = .ok s)
    (ht : detachStatement entity' relation direction other' = .ok t) : s.SameForm t := by
  rw [detachStatement_eq] at hs ht
  refine betweenEnds_form (fun h origin name head => ?_) he ho hs ht
  exact (h.push rfl).push rfl

end DeviceGraph.Store
