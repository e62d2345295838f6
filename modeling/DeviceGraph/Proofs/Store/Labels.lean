import DeviceGraph.Proofs.Assembly.WellFormed
import DeviceGraph.Proofs.Store.Call

/-!
# The labels of a vertex

A row of labels names the types that its stored chain is cut into, if they are two
or more, else the labels of the engine. Fewer than two names are an error. A vertex
that is read as a node has by its chain the very types of the node, and reading a
single label as a chain only ever helps where nothing else was found.
-/

set_option autoImplicit false

namespace DeviceGraph

namespace LabelsRow

variable {row : LabelsRow}

def named (row : LabelsRow) (legacy : Bool) : List String :=
  let stored := (row.chain.map TypeChain.split).getD []
  if 2 ≤ stored.length then stored
  else match row.labels with
    | [label] => if legacy then TypeChain.split label else [label]
    | labels => labels

theorem named_of_chain {chain : String} (h : row.chain = some chain)
    (hlen : 2 ≤ (TypeChain.split chain).length) (legacy : Bool) :
    row.named legacy = TypeChain.split chain := by
  rw [named, h]
  exact if_pos hlen

/-- Only a label on its own is read differently, and on its own it is never enough. -/
theorem named_legacy (h : 2 ≤ (row.named false).length) : row.named true = row.named false := by
  obtain ⟨labels, chain⟩ := row
  simp only [named] at h ⊢
  by_cases hlen : 2 ≤ ((chain.map TypeChain.split).getD []).length
  · rw [if_pos hlen, if_pos hlen]
  · rw [if_neg hlen] at h
    rw [if_neg hlen, if_neg hlen]
    rcases labels with _ | ⟨label, _ | ⟨next, rest⟩⟩
    · rfl
    · exact absurd h (by simp)
    · rfl

end LabelsRow

namespace Store
open Statement

/-! ## One row -/

theorem resolveLabels_eq (vertexId : String) (row : LabelsRow) (legacy : Bool) :
    resolveLabels vertexId row legacy =
      if (row.named legacy).length < 2 then
        .error (.domain (.invalidLabels vertexId (row.named legacy)))
      else .ok (row.named legacy) := by
  by_cases hlen : 2 ≤ ((row.chain.map TypeChain.split).getD []).length
  · have hnamed : row.named legacy = (row.chain.map TypeChain.split).getD [] := if_pos hlen
    rw [hnamed, if_neg (Nat.not_lt.mpr hlen)]
    exact if_pos hlen
  · have hnamed : row.named legacy = _ := if_neg hlen
    rw [hnamed]
    exact if_neg hlen

theorem resolveLabels_eq_ok_iff {vertexId : String} {row : LabelsRow} {legacy : Bool}
    {labels : List String} : resolveLabels vertexId row legacy = .ok labels ↔
      2 ≤ labels.length ∧ row.named legacy = labels := by
  rw [resolveLabels_eq]
  split
  · next hlen =>
    simp only [reduceCtorEq, false_iff]
    rintro ⟨hlabels, rfl⟩
    omega
  · next hlen =>
    rw [Except.ok.injEq]
    constructor
    · rintro rfl
      exact ⟨Nat.le_of_not_lt hlen, rfl⟩
    · exact And.right

theorem two_le_of_resolveLabels {vertexId : String} {row : LabelsRow} {legacy : Bool}
    {labels : List String} (h : resolveLabels vertexId row legacy = .ok labels) :
    2 ≤ labels.length := (resolveLabels_eq_ok_iff.mp h).1

/-! ## Asking for the labels of a vertex -/

theorem exists_labelsStatement {vertexId : String} {found : Category × List String}
    (h : Identity.decode vertexId = .ok found) : ∃ s, labelsStatement vertexId = .ok s := by
  rw [labelsStatement, vertex, h]
  exact ⟨_, rfl⟩

theorem plan_labels {vertexId : String} {s : Statement} (h : labelsStatement vertexId = .ok s)
    (legacy : Bool) (ids : EdgeIds) : (EntityCall.labels vertexId legacy).plan ids =
      .ok (.ask s (EntityCall.readLabels vertexId legacy)) := by
  rw [EntityCall.plan, h]
  rfl

variable {e : Engine} {vertexId : String} {first : Json} {others : List Json} {row : LabelsRow}

theorem labels_of_undecodable {err : DomainError} (h : Identity.decode vertexId = .error err)
    (legacy : Bool) (e : Engine) : labels vertexId legacy e = (.error (.domain err), e) := by
  apply (EntityCall.planned_labels vertexId legacy).refused
  rw [EntityCall.plan, labelsStatement, vertex, h]
  rfl

/-- The first row of the answer decides. -/
theorem labels_of_row (hanswer : Reply.answer e.replies.head? = .ok (first :: others))
    (hrow : LabelsRow.ofJson? first = some row) {found : Category × List String}
    (h : Identity.decode vertexId = .ok found) (legacy : Bool) :
    (labels vertexId legacy e).1 = some <$> resolveLabels vertexId row legacy := by
  obtain ⟨s, hs⟩ := exists_labelsStatement h
  have hresult : (labels vertexId legacy e).1 =
      Reply.answer e.replies.head? >>= EntityCall.readLabels vertexId legacy :=
    (EntityCall.planned_labels vertexId legacy).result e _ (plan_labels hs legacy e.edgeIds)
  have hread : readRow LabelsRow.ofJson? first = .ok row := by rw [readRow, hrow]
  rw [hresult, hanswer]
  show EntityCall.readLabels vertexId legacy (first :: others) = _
  rw [EntityCall.readLabels, hread]
  rfl

theorem labels_eq_ok_iff (hanswer : Reply.answer e.replies.head? = .ok (first :: others))
    (hrow : LabelsRow.ofJson? first = some row) {found : Category × List String}
    (h : Identity.decode vertexId = .ok found) (legacy : Bool) (names : List String) :
    (labels vertexId legacy e).1 = .ok (some names) ↔
      2 ≤ names.length ∧ row.named legacy = names := by
  rw [labels_of_row hanswer hrow h, Checks.map_eq_ok_iff]
  simp only [resolveLabels_eq_ok_iff, Option.some.injEq, exists_eq_right]

/-- What is answered about a vertex is at least two labels, or an error that lists too few of
them; about a text that is no vertex id nothing is asked. A stored chain gives the types of the
node that has the same id and chain, whatever the labels of the engine are, and reading a single
label as a chain changes no answer that has labels. -/
theorem labels_agree_with_node (vertexId : String)
    (hanswer : Reply.answer e.replies.head? = .ok (first :: others))
    (hrow : LabelsRow.ofJson? first = some row) :
    (∀ found, Identity.decode vertexId = .ok found → ∀ legacy,
      (∃ names, (labels vertexId legacy e).1 = .ok (some names) ∧ 2 ≤ names.length) ∨
      ∃ names, (labels vertexId legacy e).1 = .error (.domain (.invalidLabels vertexId names)) ∧
        names.length < 2) ∧
    (∀ err, Identity.decode vertexId = .error err → ∀ legacy,
      labels vertexId legacy e = (.error (.domain err), e)) ∧
    (∀ properties n chain, Assembly.node properties = .ok n →
      Assembly.stringProperty? properties idProperty = some vertexId →
      Assembly.stringProperty? properties labelProperty = some chain → row.chain = some chain →
      ∀ legacy, (labels vertexId legacy e).1 = .ok (some n.types)) ∧
    ∀ names, (labels vertexId false e).1 = .ok (some names) →
      (labels vertexId true e).1 = .ok (some names) := by
  refine ⟨fun found hd legacy => ?_, fun err hd legacy => labels_of_undecodable hd legacy e, ?_, ?_⟩
  · rw [labels_of_row hanswer hrow hd, resolveLabels_eq]
    by_cases hlen : (row.named legacy).length < 2
    · rw [if_pos hlen]
      exact .inr ⟨_, rfl, hlen⟩
    · rw [if_neg hlen]
      exact .inl ⟨_, rfl, Nat.le_of_not_lt hlen⟩
  · intro properties n chain hn hid hlabel hchain legacy
    obtain ⟨ownId, decoded, keys, hown, hd, hlen, rfl⟩ :=
      (Assembly.node_eq_ok_iff properties n).mp hn
    obtain rfl : ownId = vertexId := Option.some.inj (hown.symm.trans hid)
    have htypes := Assembly.typesOf_of_chain hlabel
    rw [labels_eq_ok_iff hanswer hrow hd]
    refine ⟨hlen, ?_⟩
    rw [htypes] at hlen ⊢
    exact row.named_of_chain hchain hlen legacy
  · intro names h
    cases hd : Identity.decode vertexId with
    | error err =>
      rw [labels_of_undecodable hd] at h
      cases h
    | ok found =>
      rw [labels_eq_ok_iff hanswer hrow hd] at h ⊢
      obtain ⟨hlen, rfl⟩ := h
      exact ⟨hlen, LabelsRow.named_legacy hlen⟩

def busEngine : Engine where
  replies := [.rows [.object [("labels", .array [.string "bus"]), ("chain", .string "bus::device")]]]

theorem labels_agree_with_node_bus : ∃ first n,
    Reply.answer busEngine.replies.head? = .ok [first] ∧
    LabelsRow.ofJson? first = some ⟨["bus"], some "bus::device"⟩ ∧
    Assembly.node (.ofList [(idProperty, .string "device___b"),
      (labelProperty, .array [.string "bus::device"])]) = .ok n ∧
    (∃ names, (labels "device___b" false busEngine).1 = .ok (some names) ∧ 2 ≤ names.length) ∧
    (∀ legacy, (labels "device___b" legacy busEngine).1 = .ok (some n.types)) ∧
    labels "bus" true busEngine =
      (.error (.domain (.malformedIdentity (.missingParts "bus"))), busEngine) := by
  obtain ⟨first, hanswer, hrow⟩ : ∃ first, Reply.answer busEngine.replies.head? = .ok [first] ∧
    LabelsRow.ofJson? first = some ⟨["bus"], some "bus::device"⟩ := ⟨_, rfl, rfl⟩
  obtain ⟨n, hn⟩ : ∃ n, Assembly.node (.ofList [(idProperty, .string "device___b"),
    (labelProperty, .array [.string "bus::device"])]) = .ok n := ⟨_, rfl⟩
  obtain ⟨houtcome, _, htypes, hlegacy⟩ := labels_agree_with_node "device___b" hanswer hrow
  obtain ⟨_, hrefused, _⟩ := labels_agree_with_node "bus" hanswer hrow
  have hread : ∀ legacy, (labels "device___b" legacy busEngine).1 = .ok (some n.types) :=
    htypes _ n "bus::device" hn rfl rfl rfl
  refine ⟨first, n, hanswer, hrow, hn, ?_, fun legacy => ?_, hrefused _ rfl true⟩
  · apply (houtcome (.device, ["b"]) rfl false).resolve_right
    rintro ⟨names, hfew, _⟩
    cases (hread false).symm.trans hfew
  · cases legacy with
    | false => exact hread false
    | true => exact hlegacy n.types (hread false)

end Store

end DeviceGraph
