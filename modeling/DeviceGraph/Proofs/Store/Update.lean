import DeviceGraph.Proofs.Statement.Assignments
import DeviceGraph.Proofs.Store.Call
import DeviceGraph.Proofs.Store.Changes
import DeviceGraph.Proofs.Store.Making

/-!
# An update is a map update

What an update does is told by what it submits: a text that is read back, with the values of
its parameters. It writes and deletes the properties that it is given and leaves all others
alone, the reserved ones among them, so the last of several updates wins at every property.
-/

set_option autoImplicit false

namespace DeviceGraph.Store

open Statement

variable {vertexId : String} {category : Category} {keys : List String} {attributes : Dict Json}

/-! ## Reading an update back -/

namespace Changes

def effects (changes : Changes) : List Effect :=
  (if changes.sets = [] then []
    else [.assign (changes.sets.map fun item => (item.1.name, item.2))]) ++
    if changes.removes = [] then [] else [.delete (changes.removes.map (·.name))]

theorem mapM_effect?_clauses (changes : Changes) :
    (changes.clauses.map fun c => Piece.tokensOf c.pieces).mapM Reading.effect? =
      some changes.effects := by
  unfold clauses effects
  by_cases hs : changes.sets = [] <;> by_cases hr : changes.removes = [] <;>
    simp [hs, hr, Reading.effect?_setProperties, Reading.effect?_removeProperties]

theorem oneLine_of_mem {changes : Changes} {c : Clause} (h : c ∈ changes.clauses) :
    Piece.OneLine c.pieces := by
  rcases List.mem_append.mp h with h | h <;> split at h
  · cases h
  · rw [List.mem_singleton.mp h]
    exact Reading.oneLine_setProperties _
  · cases h
  · rw [List.mem_singleton.mp h]
    exact Reading.oneLine_removeProperties _

theorem foldl_effects {value : String → Json} {changes : Changes} (properties : Properties)
    (h : ∀ item ∈ changes.sets, (value item.2).isNull = false) :
    changes.effects.foldl (Effect.apply value) properties = changes.apply value properties := by
  -- writing a value removes the property only if it is null, and no bound value is
  have hput : changes.sets.foldl (fun p item => p.put item.1.name (value item.2)) properties =
      changes.sets.foldl (fun p item => p.insert item.1.name (value item.2)) properties :=
    List.foldl_ext _ _ properties fun p item hm => by
      rw [Properties.put, if_neg (by simp [h item hm])]
  rw [apply, hput, Properties.eraseAll, effects]
  by_cases hs : changes.sets = [] <;> by_cases hr : changes.removes = [] <;>
    simp [hs, hr, Effect.apply, List.foldl_map]

end Changes

/-- The text of an update is read as what it does to which vertex. -/
theorem ofText?_withChanges {s : Statement} {label : Identifier} {slot : String}
    {changes : Changes} (hs : s.clauses = [])
    (h : ∀ c ∈ (withChanges s ⟨"v", label, slot⟩ changes).clauses, c.Readable) :
    Reading.ofText? (withChanges s ⟨"v", label, slot⟩ changes).text =
      some ⟨label.name, slot, changes.effects⟩ := by
  have hclauses : (withChanges s ⟨"v", label, slot⟩ changes).clauses =
      .findVertices [⟨"v", label, slot⟩] :: changes.clauses := by
    rw [clauses_withChanges, hs, List.nil_append]
  have hline : ∀ c ∈ (withChanges s ⟨"v", label, slot⟩ changes).clauses,
      Piece.OneLine c.pieces := by
    rw [hclauses]
    exact List.forall_mem_cons.mpr
      ⟨Reading.oneLine_findVertices label slot, fun c => Changes.oneLine_of_mem⟩
  have hlines := lines_text h (by simp [hclauses]) hline
  rw [hclauses, List.map_cons] at hlines
  rw [Reading.ofText?, hlines]
  dsimp only
  rw [Reading.ofFirst?_tokensOf, changes.mapM_effect?_clauses]
  rfl

/-! ## The statement of an update -/

theorem exists_bindChanges {s : Statement} {entries : List (String × Json)}
    (h : ∀ entry ∈ entries, entry.1 ≠ "") : ∃ made, bindChanges s entries = .ok made := by
  induction entries generalizing s with
  | nil => exact ⟨_, rfl⟩
  | cons entry entries ih =>
    obtain ⟨key, value⟩ := entry
    obtain ⟨hkey, hrest⟩ := List.forall_mem_cons.mp h
    rw [bindChanges, Identifier.of_ne_empty hkey]
    split
    · exact ih hrest
    · cases hnull : value.isNull with
      | true =>
        obtain ⟨made, hmade⟩ := ih (s := s) hrest
        exact ⟨_, by simp [hmade]; rfl⟩
      | false =>
        obtain ⟨made, hmade⟩ := ih (s := (s.bindFresh "p" value).1) hrest
        exact ⟨_, by simp [hmade]; rfl⟩

theorem exists_updateStatement (hd : Identity.decode vertexId = .ok (category, keys))
    (h : "" ∉ attributes.keys) :
    ∃ statement, updateStatement vertexId attributes = .ok statement := by
  have hkeys : ∀ entry ∈ attributes.entries, entry.1 ≠ "" := fun entry hm he =>
    h (List.mem_map.mpr ⟨entry, hm, he⟩)
  have hroot : ({ access := .write } : Statement).vertex "v" vertexId =
      .ok ((({ access := .write } : Statement).bindFresh "vid" (.string vertexId)).1,
        ⟨"v", category.identifier, numbered "vid" 0⟩) := by
    rw [vertex, hd]
    rfl
  obtain ⟨⟨t, changes⟩, hmade⟩ := exists_bindChanges
    (s := (({ access := .write } : Statement).bindFresh "vid" (.string vertexId)).1) hkeys
  rw [updateStatement, hroot]
  dsimp only [Bind.bind, Except.bind]
  rw [hmade]
  dsimp only
  split
  · exact ⟨_, rfl⟩
  · split <;> exact ⟨_, rfl⟩

/-- An update needs no statement when all that it is given is reserved. -/
theorem Bound.idle_iff {s t : Statement} {changes : Changes}
    (h : Bound s t attributes.entries changes) :
    changes.sets = [] ∧ changes.removes = [] ↔ ∀ key ∈ attributes.keys, isReserved key = true := by
  have hsets : changes.sets = [] ↔ ∀ entry ∈ attributes.entries,
      isReserved entry.1 = true ∨ entry.2.isNull = true := by
    rw [← List.map_eq_nil_iff, h.sets, List.map_eq_nil_iff, List.filter_eq_nil_iff]
    simp [or_iff_not_imp_left]
  have hremoves : changes.removes = [] ↔ ∀ entry ∈ attributes.entries,
      isReserved entry.1 = true ∨ entry.2.isNull = false := by
    rw [← List.map_eq_nil_iff, h.removes, List.map_eq_nil_iff, List.filter_eq_nil_iff]
    simp [or_iff_not_imp_left]
  rw [hsets, hremoves, Dict.keys, List.forall_mem_map, ← forall₂_and]
  refine forall₂_congr fun entry _ => ?_
  cases entry.2.isNull <;> simp

theorem Bound.value_not_null {s t : Statement} {entries : List (String × Json)}
    {changes : Changes} (h : Bound s t entries changes) :
    ∀ item ∈ changes.sets, (t.value item.2).isNull = false := by
  intro item hm
  have hitem : (item.1.name, t.param? item.2) ∈ (entries.filter fun entry =>
      !isReserved entry.1 && !entry.2.isNull).map fun entry => (entry.1, some entry.2) :=
    h.sets ▸ List.mem_map.mpr ⟨item, hm, rfl⟩
  obtain ⟨entry, hentry, heq⟩ := List.mem_map.mp hitem
  have hnull := (List.mem_filter.mp hentry).2
  have hslot : some entry.2 = t.param? item.2 := congrArg Prod.snd heq
  rw [value, ← hslot]
  simpa using (Bool.and_eq_true_iff.mp hnull).2

/-- The statement of an update finds its vertex, and what it does there comes to a merge. -/
theorem reading_of_update (hd : Identity.decode vertexId = .ok (category, keys)) {s : Statement}
    (h : updateStatement vertexId attributes = .ok (some s)) :
    ∃ r, Reading.ofText? s.text = some r ∧ r.label = category.label ∧
      s.param? r.slot = some (.string vertexId) ∧
      ∀ stored, r.apply s.value stored = stored.merge (.ofDict (writable attributes)) := by
  have hreadable := (making_update h).readable
  obtain ⟨s₁, root, t, changes, hv, hbound, hs⟩ := updateStatement_eq_ok h
  obtain ⟨category', keys', hd', rfl, rfl⟩ := vertex_eq_ok hv
  rw [hd] at hd'
  cases hd'
  split at hs
  · cases hs
  · cases hs
    refine ⟨_, ofText?_withChanges hbound.clauses hreadable, rfl, ?_, fun stored => ?_⟩
    · rw [param?_withChanges]
      exact hbound.writes.kept (param?_bindFresh_new _ "vid" (.string vertexId))
    · rw [value_withChanges, ← hbound.apply_eq]
      exact Changes.foldl_effects stored hbound.value_not_null

/-! ## What updates make of properties -/

def submissions (vertexId : String) (attributes : Dict Json) (e : Engine) : List Statement :=
  (update vertexId attributes e).2.submitted.drop e.submitted.length

def changedBy (statements : List Statement) (stored : Properties) : Option Properties :=
  statements.foldlM (fun p s => (Reading.ofText? s.text).map fun r => r.apply s.value p) stored

theorem submitted_update (hd : Identity.decode vertexId = .ok (category, keys))
    (h : "" ∉ attributes.keys) (e : Engine) :
    ∃ statement, updateStatement vertexId attributes = .ok statement ∧
      (update vertexId attributes e).2.submitted = e.submitted ++ statement.toList ∧
      submissions vertexId attributes e = statement.toList := by
  obtain ⟨statement, hstatement⟩ := exists_updateStatement hd h
  have hplan : (EntityCall.update vertexId attributes).plan e.edgeIds =
      .ok ⟨statement, fun _ => .ok ()⟩ := by
    rw [EntityCall.plan, hstatement]
    rfl
  have hsubmitted := (EntityCall.planned_update vertexId attributes).submitted hplan
  refine ⟨statement, hstatement, hsubmitted, ?_⟩
  rw [submissions, hsubmitted, List.drop_left]

theorem submissions_eq_nil_iff (hd : Identity.decode vertexId = .ok (category, keys))
    (h : "" ∉ attributes.keys) (e : Engine) :
    submissions vertexId attributes e = [] ↔ ∀ key ∈ attributes.keys, isReserved key = true := by
  obtain ⟨statement, hstatement, -, hnew⟩ := submitted_update hd h e
  obtain ⟨s, root, t, changes, -, hbound, rfl⟩ := updateStatement_eq_ok hstatement
  rw [hnew, ← hbound.idle_iff]
  split <;> simp_all

theorem changedBy_append (ss ts : List Statement) (stored : Properties) :
    changedBy (ss ++ ts) stored = changedBy ss stored >>= changedBy ts :=
  List.foldlM_append

theorem changedBy_submissions (hd : Identity.decode vertexId = .ok (category, keys))
    (h : "" ∉ attributes.keys) (e : Engine) (stored : Properties) :
    changedBy (submissions vertexId attributes e) stored =
      some (stored.merge (.ofDict (writable attributes))) := by
  obtain ⟨statement, hstatement, -, hnew⟩ := submitted_update hd h e
  rw [hnew]
  cases statement with
  | some s =>
    obtain ⟨r, hread, -, -, happly⟩ := reading_of_update hd hstatement
    rw [Option.toList_some, changedBy, List.foldlM_cons, hread, Option.map_some, happly]
    rfl
  | none =>
    obtain ⟨s, root, t, changes, -, hbound, hnone⟩ := updateStatement_eq_ok hstatement
    split at hnone
    · next hidle =>
      rw [← hbound.apply_eq, Changes.apply, hidle.1, hidle.2]
      rfl
    · cases hnone

/-- Of two merges the later one wins. -/
theorem merge_writable_merge_writable (stored : Properties) (a b : Dict Json) :
    (stored.merge (.ofDict (writable a))).merge (.ofDict (writable b)) =
      stored.merge (.ofDict (writable (a.override b))) := by
  refine Dict.ext_get? fun key => ?_
  rw [get?_merge_writable, get?_merge_writable, get?_merge_writable, Dict.get?_override]
  cases isReserved key <;> cases b.get? key <;> rfl

/-- An update of an entity submits a statement unless all that it is given is reserved. Read
from its text, it writes the values that are not null, deletes the others and leaves every
further property alone. Once is as good as twice, and the later of two updates wins. -/
theorem update_last_write_wins (hd : Identity.decode vertexId = .ok (category, keys)) :
    (∀ (a : Dict Json) (e : Engine), "" ∉ a.keys →
      (update vertexId a e).2.submitted = e.submitted ++ submissions vertexId a e ∧
      (submissions vertexId a e = [] ↔ ∀ key ∈ a.keys, isReserved key = true) ∧
      (∀ s ∈ submissions vertexId a e, ∃ r, Reading.ofText? s.text = some r ∧
        r.label = category.label ∧ s.param? r.slot = some (.string vertexId)) ∧
      ∀ stored, ∃ changed, changedBy (submissions vertexId a e) stored = some changed ∧
        ∀ key, changed.get? key = if isReserved key = true then stored.get? key
          else match a.get? key with
            | some value => if value.isNull then none else some value
            | none => stored.get? key) ∧
    ∀ (a b : Dict Json) (e e₁ e₂ : Engine), "" ∉ a.keys → "" ∉ b.keys → ∀ stored,
      changedBy (submissions vertexId a e ++ submissions vertexId a e₁) stored =
        changedBy (submissions vertexId a e) stored ∧
      changedBy (submissions vertexId a e ++ submissions vertexId b e₁) stored =
        changedBy (submissions vertexId (a.override b) e₂) stored := by
  constructor
  · intro a e ha
    refine ⟨?_, submissions_eq_nil_iff hd ha e, fun s hs => ?_, fun stored =>
      ⟨_, changedBy_submissions hd ha e stored, get?_merge_writable stored a⟩⟩
    · obtain ⟨statement, -, hsubmitted, hnew⟩ := submitted_update hd ha e
      rw [hsubmitted, hnew]
    · obtain ⟨statement, hstatement, -, hnew⟩ := submitted_update hd ha e
      rw [hnew, Option.mem_toList] at hs
      cases hs
      obtain ⟨r, hread, hlabel, hslot, -⟩ := reading_of_update hd hstatement
      exact ⟨r, hread, hlabel, hslot⟩
  · intro a b e e₁ e₂ ha hb stored
    have hab : "" ∉ (a.override b).keys := by
      rw [Dict.mem_keys_override]
      exact not_or.mpr ⟨ha, hb⟩
    have htwo : ∀ c : Dict Json, "" ∉ c.keys →
        changedBy (submissions vertexId a e ++ submissions vertexId c e₁) stored =
          some (stored.merge (.ofDict (writable (a.override c)))) := by
      intro c hc
      rw [changedBy_append, changedBy_submissions hd ha, Option.bind_eq_bind, Option.bind_some,
        changedBy_submissions hd hc, merge_writable_merge_writable]
    -- an update repeated is the law for two, as a dictionary over itself is that dictionary
    constructor
    · rw [htwo a ha, Dict.override_self, changedBy_submissions hd ha]
    · rw [htwo b hb, changedBy_submissions hd hab]

/-- Attributes whose names try to end their quotes and the line. -/
def retired : Dict Json :=
  .ofList [("state\x60 = 1\nREMOVE v.id", .string "retired"), ("firmware", .null),
    ("id", .string "nope")]

theorem update_last_write_wins_retired :
    submissions "device___d" retired {} ≠ [] ∧ ∀ stored, ∃ changed,
      changedBy (submissions "device___d" retired {}) stored = some changed ∧
      changedBy (submissions "device___d" retired {} ++ submissions "device___d" retired {})
        stored = some changed ∧
      changed.get? "state\x60 = 1\nREMOVE v.id" = some (.string "retired") ∧
      changed.get? "firmware" = none ∧ changed.get? "id" = stored.get? "id" ∧
      changed.get? "zone" = stored.get? "zone" := by
  have hkeys : "" ∉ retired.keys := by decide
  obtain ⟨hupdate, hlater⟩ := update_last_write_wins
    (show Identity.decode "device___d" = .ok (.device, ["d"]) by rfl)
  obtain ⟨-, hnone, -, hchanged⟩ := hupdate retired {} hkeys
  refine ⟨fun h => absurd (hnone.mp h) (by decide), fun stored => ?_⟩
  obtain ⟨changed, honce, hget⟩ := hchanged stored
  obtain ⟨htwice, -⟩ := hlater retired retired {} {} {} hkeys hkeys stored
  exact ⟨changed, honce, htwice.trans honce, hget _, hget _, hget _, hget _⟩

end DeviceGraph.Store
