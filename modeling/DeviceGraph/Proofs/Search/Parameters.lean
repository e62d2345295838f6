import DeviceGraph.Proofs.Search.Filter

/-!
# What a list of parameters asks for

Applying parameters one after the other succeeds exactly when each of them can
be read, and the result depends only on the values given under each name, in
their order. So parameters of different names may be moved past each other.
-/

set_option autoImplicit false

namespace DeviceGraph.Search
open Checks

abbrev Parameters := List (String × List String)

def given (name : String) (ps : Parameters) : List (List String) :=
  ps.filterMap fun p => if p.1 = name then some p.2 else none

theorem given_nil (name : String) : given name [] = [] := rfl

theorem given_append (name : String) (ps qs : Parameters) :
    given name (ps ++ qs) = given name ps ++ given name qs := List.filterMap_append

theorem given_singleton (name : String) (p : String × List String) :
    given name [p] = if p.1 = name then [p.2] else [] := by
  by_cases h : p.1 = name <;> simp [given, h]

theorem given_map (name : String) (g : List String → List String) (ps : Parameters) :
    given name (ps.map fun p => (p.1, g p.2)) = (given name ps).map g := by
  rw [given, List.filterMap_map, given, List.map_filterMap]
  congr 1
  funext p
  by_cases h : p.1 = name <;> simp [h]

theorem mem_given_iff (name : String) (values : List String) (ps : Parameters) :
    values ∈ given name ps ↔ (name, values) ∈ ps := by
  rw [given, List.mem_filterMap]
  constructor
  · rintro ⟨p, hp, hv⟩
    by_cases h : p.1 = name
    · rw [if_pos h] at hv
      cases hv
      exact h ▸ hp
    · rw [if_neg h] at hv
      cases hv
  · exact fun h => ⟨(name, values), h, if_pos rfl⟩

theorem given_eq_nil {name : String} {ps : Parameters} (h : name ∉ ps.map (·.1)) :
    given name ps = [] := by
  rw [given, List.filterMap_eq_nil_iff]
  intro p hp
  have hne : p.1 ≠ name := fun hn => h (hn ▸ List.mem_map_of_mem hp)
  exact if_neg hne

theorem length_given_le_one {ps : Parameters} (h : (ps.map (·.1)).Nodup) (name : String) :
    (given name ps).length ≤ 1 := by
  induction ps with
  | nil => simp [given_nil]
  | cons p ps ih =>
    obtain ⟨hp, hps⟩ := List.nodup_cons.mp h
    rw [show p :: ps = [p] ++ ps from rfl, given_append, given_singleton]
    by_cases hn : p.1 = name
    · rw [if_pos hn, given_eq_nil (hn ▸ hp)]
      simp
    · rw [if_neg hn]
      exact ih hps

theorem given_eq_of_perm {ps qs : Parameters} (hp : ps.Perm qs) (h : (qs.map (·.1)).Nodup)
    (name : String) : given name ps = given name qs := by
  have hg : (given name ps).Perm (given name qs) := hp.filterMap _
  -- at most one list stands under the name, and a permutation of one list is that list
  have hlen := length_given_le_one h name
  match hq : given name qs with
  | [] => exact List.perm_nil.mp (hq ▸ hg)
  | [values] => exact List.perm_singleton.mp (hq ▸ hg)
  | _ :: _ :: _ =>
    rw [hq] at hlen
    simp at hlen

theorem Operator.ofName?_eq_some_iff (text : String) (op : Operator) :
    ofName? text = some op ↔ op.name = text := by
  constructor
  · intro h
    simpa using List.find?_some h
  · rintro rfl
    exact ofName?_name op

theorem Operator.name_injective {op other : Operator} (h : op.name = other.name) : op = other := by
  have ho := ofName?_name op
  rw [h, ofName?_name] at ho
  exact (Option.some.inj ho).symm

theorem Operator.name_reserved (op : Operator) :
    op.name ≠ typeParameter ∧ op.name ≠ ancestorParameter ∧ op.name ≠ summarizeParameter := by
  cases op <;> decide

def Readable (p : String × List String) : Prop :=
  p.1 = typeParameter ∨ p.1 = ancestorParameter ∨ p.1 = summarizeParameter ∨
    ∃ op : Operator, op.name = p.1 ∧ ∀ text ∈ p.2, (Filter.read? op text).isSome

theorem readable_reserved {p : String × List String}
    (h : p.1 = typeParameter ∨ p.1 = ancestorParameter ∨ p.1 = summarizeParameter) :
    Readable p := by
  rcases h with h | h | h
  · exact .inl h
  · exact .inr (.inl h)
  · exact .inr (.inr (.inl h))

theorem readable_operator_iff (op : Operator) (values : List String) :
    Readable (op.name, values) ↔ ∀ text ∈ values, (Filter.read? op text).isSome := by
  obtain ⟨ht, ha, hs⟩ := op.name_reserved
  constructor
  · rintro (h | h | h | ⟨other, h, hv⟩)
    · exact absurd h ht
    · exact absurd h ha
    · exact absurd h hs
    · exact Operator.name_injective h ▸ hv
  · exact fun hv => .inr (.inr (.inr ⟨op, rfl, hv⟩))

def parameterNames : List String :=
  [typeParameter, ancestorParameter] ++ Operator.all.map Operator.name ++ [summarizeParameter]

theorem mem_parameterNames_iff (name : String) : name ∈ parameterNames ↔
    name = typeParameter ∨ name = ancestorParameter ∨ name = summarizeParameter ∨
      ∃ op : Operator, op.name = name := by
  simp only [parameterNames, List.mem_append, List.mem_cons, List.not_mem_nil, or_false,
    List.mem_map, Operator.mem_all, true_and]
  constructor
  · rintro (((h | h) | h) | h)
    · exact .inl h
    · exact .inr (.inl h)
    · exact .inr (.inr (.inr h))
    · exact .inr (.inr (.inl h))
  · rintro (h | h | h | h)
    · exact .inl (.inl (.inl h))
    · exact .inl (.inl (.inr h))
    · exact .inr h
    · exact .inl (.inr h)

theorem forall_readable_iff (ps : Parameters) :
    (∀ p ∈ ps, Readable p) ↔ (∀ p ∈ ps, p.1 ∈ parameterNames) ∧
      ∀ op : Operator, ∀ text ∈ (given op.name ps).flatten, (Filter.read? op text).isSome := by
  constructor
  · intro h
    constructor
    · intro p hp
      rw [mem_parameterNames_iff]
      exact (h p hp).imp_right (.imp_right (.imp_right fun ⟨op, hn, _⟩ => ⟨op, hn⟩))
    · intro op text ht
      obtain ⟨values, hv, ht⟩ := List.mem_flatten.mp ht
      exact (readable_operator_iff op values).mp (h _ ((mem_given_iff _ _ _).mp hv)) text ht
  · rintro ⟨hn, hr⟩ ⟨name, values⟩ hp
    rcases (mem_parameterNames_iff name).mp (hn _ hp) with h | h | h | ⟨op, rfl⟩
    · exact readable_reserved (.inl h)
    · exact readable_reserved (.inr (.inl h))
    · exact readable_reserved (.inr (.inr h))
    · refine (readable_operator_iff op values).mpr fun text ht => hr op text ?_
      exact List.mem_flatten.mpr ⟨values, (mem_given_iff _ _ _).mpr hp, ht⟩

namespace Draft

def after (d : Draft) (ps : Parameters) : Draft where
  types := d.types ++ (given typeParameter ps).flatten.filter (· ≠ "")
  ancestorPath := ((given ancestorParameter ps).filterMap List.head?).getLast?.or d.ancestorPath
  summarize := ((given summarizeParameter ps).getLast?.map (·.contains "true")).getD d.summarize
  filters := fun op => d.filters op ++ (given op.name ps).flatten.filterMap (Filter.read? op)

theorem after_nil (d : Draft) : d.after [] = d := by
  simp [after, given_nil]

theorem after_congr {ps qs : Parameters} (h : ∀ name, given name ps = given name qs)
    {d : Draft} : d.after ps = d.after qs := by
  simp only [after, h]

theorem after_append (d : Draft) (ps qs : Parameters) :
    d.after (ps ++ qs) = (d.after ps).after qs := by
  simp only [after, given_append, List.flatten_append, List.filter_append, List.filterMap_append,
    List.getLast?_append, List.append_assoc, Option.or_assoc, Option.map_or, Option.getD_or]

theorem foldl_withType (d : Draft) (types : List String) :
    types.foldl withType d = { d with types := d.types ++ types } := by
  induction types generalizing d with
  | nil => simp
  | cons t types ih =>
    rw [List.foldl_cons, ih]
    simp [withType]

def withFilters (d : Draft) (op : Operator) (fs : List Filter) : Draft :=
  { d with filters := fun other => d.filters other ++ if other = op then fs else [] }

theorem withFilters_nil (d : Draft) (op : Operator) : d.withFilters op [] = d := by
  simp [withFilters]

theorem withFilters_filter (d : Draft) (op : Operator) (f : Filter) (fs : List Filter) :
    (d.filter op f).withFilters op fs = d.withFilters op (f :: fs) := by
  simp only [withFilters, filter, Filters.add, mk.injEq, true_and]
  funext other
  by_cases h : other = op <;> simp [h]

theorem addFilters_eq_ok_iff (op : Operator) (d e : Draft) (texts : List String) :
    addFilters op d texts = .ok e ↔ (∀ text ∈ texts, (Filter.read? op text).isSome) ∧
      e = d.withFilters op (texts.filterMap (Filter.read? op)) := by
  induction texts generalizing d with
  | nil =>
    rw [addFilters, List.filterMap_nil, withFilters_nil, Except.ok.injEq, eq_comm]
    simp
  | cons text texts ih =>
    rw [addFilters, bind_eq_ok_iff]
    cases hf : Filter.read? op text with
    | none =>
      constructor
      · rintro ⟨f, hw, _⟩
        rw [Filter.ofWire_eq_ok_iff, hf] at hw
        cases hw
      · rintro ⟨hr, _⟩
        have ht := hr text List.mem_cons_self
        rw [hf] at ht
        cases ht
    | some f =>
      have hstep : (∃ g, Filter.ofWire op text = .ok g ∧
          addFilters op (d.filter op g) texts = .ok e) ↔
          addFilters op (d.filter op f) texts = .ok e := by
        simp [Filter.ofWire_eq_ok_iff, hf]
      rw [hstep, ih, withFilters_filter, List.filterMap_cons, hf, List.forall_mem_cons, hf]
      simp

theorem filters_after_reserved (d : Draft) (p : String × List String)
    (h : p.1 = typeParameter ∨ p.1 = ancestorParameter ∨ p.1 = summarizeParameter) :
    (d.after [p]).filters = d.filters := by
  funext op
  obtain ⟨ht, ha, hs⟩ := op.name_reserved
  have hne : p.1 ≠ op.name := by
    rintro hp
    rw [hp] at h
    exact h.elim ht (·.elim ha hs)
  simp [after, given_singleton, hne]

theorem after_type (d : Draft) (values : List String) :
    d.after [(typeParameter, values)] =
      { d with types := d.types ++ values.filter (· ≠ "") } := by
  have hf := filters_after_reserved d (typeParameter, values) (.inl rfl)
  have ha : typeParameter ≠ ancestorParameter := by decide
  have hs : typeParameter ≠ summarizeParameter := by decide
  rw [← hf]
  simp [after, given_singleton, ha, hs]

theorem after_ancestor (d : Draft) (values : List String) :
    d.after [(ancestorParameter, values)] =
      { d with ancestorPath := values.head?.or d.ancestorPath } := by
  have hf := filters_after_reserved d (ancestorParameter, values) (.inr (.inl rfl))
  have ht : ancestorParameter ≠ typeParameter := by decide
  have hs : ancestorParameter ≠ summarizeParameter := by decide
  rw [← hf]
  cases values <;> simp [after, given_singleton, ht, hs]

theorem after_summarize (d : Draft) (values : List String) :
    d.after [(summarizeParameter, values)] = d.summarizing (values.contains "true") := by
  have hf := filters_after_reserved d (summarizeParameter, values) (.inr (.inr rfl))
  have ht : summarizeParameter ≠ typeParameter := by decide
  have ha : summarizeParameter ≠ ancestorParameter := by decide
  rw [summarizing, ← hf]
  simp [after, given_singleton, ht, ha]

theorem after_operator (d : Draft) (op : Operator) (values : List String) :
    d.after [(op.name, values)] = d.withFilters op (values.filterMap (Filter.read? op)) := by
  obtain ⟨ht, ha, hs⟩ := op.name_reserved
  simp only [after, given_singleton, withFilters, ht, ha, hs, if_false, List.flatten_nil,
    List.filter_nil, List.append_nil, List.filterMap_nil, List.getLast?_nil, Option.none_or,
    Option.map_none, Option.getD_none, mk.injEq, true_and]
  funext other
  by_cases ho : other = op
  · subst ho
    simp
  · have hn : op.name ≠ other.name := fun h => ho (Operator.name_injective h).symm
    simp [hn, ho]

/-- One parameter is read exactly when it is readable, and then adds what it
asks for and nothing else. -/
theorem apply_eq_ok_iff (d e : Draft) (p : String × List String) :
    d.apply p.1 p.2 = .ok e ↔ Readable p ∧ e = d.after [p] := by
  obtain ⟨name, values⟩ := p
  by_cases ht : name = typeParameter
  · subst ht
    have hd : d.apply typeParameter values = .ok (d.after [(typeParameter, values)]) := by
      rw [apply.eq_def, if_pos rfl, foldl_withType, after_type]
    simp [hd, readable_reserved, eq_comm]
  · by_cases ha : name = ancestorParameter
    · subst ha
      have hd : d.apply ancestorParameter values = .ok (d.after [(ancestorParameter, values)]) := by
        rw [apply.eq_def, if_neg ht, if_pos rfl, after_ancestor]
        cases values <;> rfl
      simp [hd, readable_reserved, eq_comm]
    · by_cases hs : name = summarizeParameter
      · subst hs
        have hd : d.apply summarizeParameter values =
            .ok (d.after [(summarizeParameter, values)]) := by
          rw [apply.eq_def, if_neg ht, if_neg ha, if_pos rfl, after_summarize]
        simp [hd, readable_reserved, eq_comm]
      · rw [apply.eq_def, if_neg ht, if_neg ha, if_neg hs]
        cases hn : Operator.ofName? name with
        | none =>
          have hr : ¬ Readable (name, values) := by
            rintro (h | h | h | ⟨op, h, _⟩)
            · exact ht h
            · exact ha h
            · exact hs h
            · rw [(Operator.ofName?_eq_some_iff name op).mpr h] at hn
              cases hn
          simp [hr]
        | some op =>
          have hop := (Operator.ofName?_eq_some_iff name op).mp hn
          subst hop
          rw [readable_operator_iff, after_operator]
          exact addFilters_eq_ok_iff op d e values

/-- A run over parameters succeeds exactly when all of them are readable, and
its result depends on their order only through the values under each name. -/
theorem foldlM_apply_eq_ok_iff (ps : Parameters) (d e : Draft) :
    ps.foldlM (fun d p => d.apply p.1 p.2) d = .ok e ↔
      (∀ p ∈ ps, Readable p) ∧ e = d.after ps := by
  induction ps generalizing d with
  | nil =>
    rw [List.foldlM_nil, pure_eq_ok_iff, after_nil, eq_comm]
    simp
  | cons p ps ih =>
    rw [List.foldlM_cons, bind_eq_ok_iff, List.forall_mem_cons,
      show p :: ps = [p] ++ ps from rfl, after_append]
    constructor
    · rintro ⟨f, hf, he⟩
      obtain ⟨hp, rfl⟩ := (apply_eq_ok_iff d f p).mp hf
      obtain ⟨hps, rfl⟩ := (ih _).mp he
      exact ⟨⟨hp, hps⟩, rfl⟩
    · rintro ⟨⟨hp, hps⟩, rfl⟩
      exact ⟨d.after [p], (apply_eq_ok_iff _ _ _).mpr ⟨hp, rfl⟩, (ih _).mpr ⟨hps, rfl⟩⟩

end Draft

end DeviceGraph.Search
