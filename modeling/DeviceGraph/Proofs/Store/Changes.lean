import DeviceGraph.Proofs.Item.Reading
import DeviceGraph.Proofs.Statement.Identifier
import DeviceGraph.Store.Entity

/-!
# What an update changes

An update binds every attribute that it writes to a parameter of its own and names
those that it removes; reserved ones take part in neither. Its clauses, run on the
properties of a vertex, come to one merge with the attributes that are not reserved.
-/

set_option autoImplicit false

namespace DeviceGraph

def Properties.eraseAll (properties : Properties) (keys : List Identifier) : Properties :=
  keys.foldl (fun p key => p.erase key.name) properties

theorem Properties.get?_eraseAll (properties : Properties) (keys : List Identifier)
    (key : String) : (properties.eraseAll keys).get? key =
      if key ∈ keys.map (·.name) then none else properties.get? key := by
  have hwithout : properties.eraseAll keys = Item.without (keys.map (·.name)) properties := by
    rw [eraseAll, Item.without, List.foldl_map]
  rw [hwithout, Item.get?_without]

theorem Statement.vertex_eq_ok {s t : Statement} {var vertexId : String} {pattern : VertexPattern}
    (h : s.vertex var vertexId = .ok (t, pattern)) :
    ∃ category keys, Identity.decode vertexId = .ok (category, keys) ∧
      t = (s.bindFresh "vid" (.string vertexId)).1 ∧
      pattern = ⟨var, category.identifier, Statement.numbered "vid" s.issued⟩ := by
  obtain ⟨⟨category, keys⟩, hd, hok⟩ := (Checks.bind_eq_ok_iff _ _ _).mp h
  cases hok
  exact ⟨category, keys, (Checks.mapError_eq_ok_iff _ _ _).mp hd, rfl, rfl⟩

namespace Store
open Statement

def writable (attributes : Dict Json) : Dict Json := attributes.filter fun key _ => !isReserved key

/-- Reserved properties keep their values, the others take those of an update. -/
theorem get?_merge_writable (properties : Properties) (attributes : Dict Json) (key : String) :
    (properties.merge (.ofDict (writable attributes))).get? key =
      if isReserved key = true then properties.get? key
      else match attributes.get? key with
        | some value => if value.isNull then none else some value
        | none => properties.get? key := by
  rw [Properties.get?_merge, writable, Dict.get?_filter]
  cases attributes.get? key <;> cases isReserved key <;> rfl

def assigned (attributes : Dict Json) : Dict Json :=
  attributes.filter fun key value => !isReserved key && !value.isNull

def removed (attributes : Dict Json) : Dict Json :=
  attributes.filter fun key value => !isReserved key && value.isNull

def Changes.apply (value : String → Json) (changes : Changes) (properties : Properties) :
    Properties :=
  Properties.eraseAll
    (changes.sets.foldl (fun p item => p.put item.1.name (value item.2)) properties)
    changes.removes

structure Bound (s t : Statement) (entries : List (String × Json)) (changes : Changes) : Prop where
  writes : Writes s t []
  clauses : t.clauses = s.clauses
  sets : changes.sets.map (fun item => (item.1.name, t.param? item.2)) =
    (entries.filter fun entry => !isReserved entry.1 && !entry.2.isNull).map
      fun entry => (entry.1, some entry.2)
  removes : changes.removes.map (·.name) =
    (entries.filter fun entry => !isReserved entry.1 && entry.2.isNull).map (·.1)

theorem bound_of_bindChanges {s t : Statement} {entries : List (String × Json)}
    {changes : Changes} (hs : s.Fresh) (h : bindChanges s entries = .ok (t, changes)) :
    Bound s t entries changes := by
  induction entries generalizing s changes with
  | nil =>
    cases h
    exact ⟨.refl hs, rfl, rfl, rfl⟩
  | cons entry entries ih =>
    obtain ⟨key, value⟩ := entry
    rw [bindChanges] at h
    by_cases hreserved : isReserved key = true
    · rw [if_pos hreserved] at h
      have hrest := ih hs h
      exact ⟨hrest.writes, hrest.clauses, by simpa [hreserved] using hrest.sets,
        by simpa [hreserved] using hrest.removes⟩
    rw [if_neg hreserved] at h
    obtain ⟨property, hproperty, h⟩ := (Checks.bind_eq_ok_iff _ _ _).mp h
    have hname := (Identifier.of_eq_ok_iff _ _).mp hproperty
    cases hnull : value.isNull with
    | true =>
      rw [if_pos hnull] at h
      obtain ⟨⟨u, more⟩, hmore, h⟩ := (Checks.bind_eq_ok_iff _ _ _).mp h
      cases h
      have hrest := ih hs hmore
      exact ⟨hrest.writes, hrest.clauses, by simpa [hreserved, hnull] using hrest.sets,
        by simpa [hreserved, hnull, hname] using hrest.removes⟩
    | false =>
      rw [if_neg (by simp [hnull])] at h
      obtain ⟨⟨u, more⟩, hmore, h⟩ := (Checks.bind_eq_ok_iff _ _ _).mp h
      cases h
      have hbind := Writes.bindFresh hs (by decide : Lettered "p") value
      have hrest := ih hbind.fresh hmore
      have hslot : t.param? ("p" ++ decimalText s.issued) = some value :=
        hrest.writes.kept (param?_bindFresh_new s "p" value)
      refine ⟨hbind.then_nothing hrest.writes, hrest.clauses, ?_, ?_⟩
      · simpa [hreserved, hnull, hname, hslot] using hrest.sets
      · simpa [hreserved, hnull] using hrest.removes

/-- Writing and removing come to one merge, as no attribute is named twice. -/
theorem Bound.apply_eq {s t : Statement} {attributes : Dict Json} {changes : Changes}
    (h : Bound s t attributes.entries changes) (properties : Properties) :
    changes.apply t.value properties = properties.merge (.ofDict (writable attributes)) := by
  have hsets : changes.sets.map (fun item => (item.1.name, t.value item.2)) =
      (assigned attributes).entries := by
    have hvalues := congrArg (List.map fun m : String × Option Json => (m.1, m.2.getD .null)) h.sets
    simpa [Function.comp_def, value, assigned, Dict.filter] using hvalues
  have hremoves : changes.removes.map (·.name) = (removed attributes).keys := h.removes
  refine Dict.ext_get? fun key => ?_
  have hremoved : key ∈ (removed attributes).keys ↔ (removed attributes).get? key ≠ none := by
    rw [ne_eq, Dict.get?_eq_none_iff, not_not]
  have hassigned : Entries.get? key (assigned attributes).entries =
    (assigned attributes).get? key := rfl
  rw [Changes.apply, Properties.get?_eraseAll, hremoves, ← List.foldl_map (l := changes.sets)
    (f := fun item => (item.1.name, t.value item.2)) (g := fun p m => Properties.put p m.1 m.2),
    hsets, Properties.get?_foldl_put _ (assigned attributes).nodup_keys, Properties.get?_merge,
    hassigned]
  simp only [hremoved]
  simp only [assigned, removed, writable, Dict.get?_filter]
  cases attributes.get? key with
  | none => rfl
  | some value => cases isReserved key <;> cases hnull : value.isNull <;> simp [Option.filter, hnull]

def withChanges (s : Statement) (root : VertexPattern) (changes : Changes) : Statement :=
  let found := s.push (.findVertices [root])
  let set := if changes.sets = [] then found else found.push (.setProperties "v" changes.sets)
  if changes.removes = [] then set else set.push (.removeProperties "v" changes.removes)

def Changes.clauses (changes : Changes) : List Clause :=
  (if changes.sets = [] then [] else [.setProperties "v" changes.sets]) ++
    if changes.removes = [] then [] else [.removeProperties "v" changes.removes]

theorem withChanges_eq (s : Statement) (root : VertexPattern) (changes : Changes) :
    withChanges s root changes =
      { s with clauses := s.clauses ++ .findVertices [root] :: changes.clauses } := by
  unfold withChanges Changes.clauses
  by_cases hsets : changes.sets = [] <;> by_cases hremoves : changes.removes = [] <;>
    simp [push, hsets, hremoves]

theorem clauses_withChanges (s : Statement) (root : VertexPattern) (changes : Changes) :
    (withChanges s root changes).clauses =
      s.clauses ++ .findVertices [root] :: changes.clauses := by
  rw [withChanges_eq]

theorem param?_withChanges (s : Statement) (root : VertexPattern) (changes : Changes) :
    (withChanges s root changes).param? = s.param? := by
  rw [withChanges_eq]
  rfl

theorem value_withChanges (s : Statement) (root : VertexPattern) (changes : Changes) :
    (withChanges s root changes).value = s.value := by
  rw [withChanges_eq]
  rfl

theorem updateStatement_eq_ok {vertexId : String} {attributes : Dict Json}
    {statement : Option Statement} (h : updateStatement vertexId attributes = .ok statement) :
    ∃ s root t changes, ({ access := .write } : Statement).vertex "v" vertexId = .ok (s, root) ∧
      Bound s t attributes.entries changes ∧
      statement = if changes.sets = [] ∧ changes.removes = [] then none
        else some (withChanges t root changes) := by
  obtain ⟨⟨s, root⟩, hv, h⟩ := (Checks.bind_eq_ok_iff _ _ _).mp h
  obtain ⟨⟨t, changes⟩, hchanges, h⟩ := (Checks.bind_eq_ok_iff _ _ _).mp h
  refine ⟨s, root, t, changes, hv, bound_of_bindChanges (writes_vertex (fresh_new _) hv).fresh
    hchanges, ?_⟩
  dsimp only at h
  split at h
  · next hnone =>
    cases h
    rw [if_pos hnone]
  · next hsome =>
    rw [if_neg hsome]
    cases h
    rw [withChanges]
    split <;> rfl

end Store

end DeviceGraph
