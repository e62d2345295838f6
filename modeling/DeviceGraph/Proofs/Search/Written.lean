import DeviceGraph.Proofs.Search.Parameters

/-!
# The parameters a request is written as

Every parameter name occurs once, with the values of the request under it. The
two written forms cut these values in two ways: the map keeps each value whole,
the query string cuts it at its commas. What is read back is computed here for
both ways of cutting.
-/

set_option autoImplicit false

namespace DeviceGraph.Search
open Checks

theorem filterMap_single {β : Type} {ops : List Operator} (hn : ops.Nodup) {op : Operator}
    (hm : op ∈ ops) (g : Operator → Option β) :
    ops.filterMap (fun other => if other = op then g other else none) = (g op).toList := by
  induction ops with
  | nil => cases hm
  | cons first ops ih =>
    obtain ⟨hf, hr⟩ := List.nodup_cons.mp hn
    by_cases h : first = op
    · subst h
      have hrest : ops.filterMap (fun other => if other = first then g other else none) = [] := by
        rw [List.filterMap_eq_nil_iff]
        intro other ho
        have hne : other ≠ first := fun heq => hf (heq ▸ ho)
        exact if_neg hne
      rw [List.filterMap_cons, hrest, if_pos rfl]
      cases g first <;> rfl
    · have hm := (List.mem_cons.mp hm).resolve_left (Ne.symm h)
      rw [List.filterMap_cons, if_neg h, ih hr hm]

def Filters.parameters (filters : Filters) : Parameters :=
  filters.entries.map fun entry => (entry.1.name, entry.2.map Filter.wire)

theorem Filters.given_operator (filters : Filters) (op : Operator) :
    given op.name filters.parameters =
      if filters op = [] then [] else [(filters op).map Filter.wire] := by
  have hone := filterMap_single (by decide : Operator.all.Nodup) (Operator.mem_all op)
    fun other => if filters other = [] then none else some ((filters other).map Filter.wire)
  have hgiven : given op.name filters.parameters = Operator.all.filterMap fun other =>
      if other = op then if filters other = [] then none
        else some ((filters other).map Filter.wire) else none := by
    rw [given, parameters, entries, List.filterMap_map, List.filterMap_filter, List.filterMap_map]
    congr 1
    funext other
    by_cases ho : other = op
    · subst ho
      by_cases hf : filters other = [] <;> simp [hf]
    · have hname : other.name ≠ op.name := fun h => ho (Operator.name_injective h)
      simp [ho, hname]
  rw [hgiven, hone]
  by_cases hf : filters op = [] <;> simp [hf]

theorem Filters.names_parameters (filters : Filters) :
    (filters.parameters.map (·.1)).Sublist (Operator.all.map Operator.name) := by
  have hnames : filters.parameters.map (·.1) =
      (filters.entries.map (·.1)).map Operator.name := by
    simp [parameters, Function.comp_def]
  have hentries : (filters.entries.map (·.1)).Sublist Operator.all := by
    have hs := (List.filter_sublist (p := fun e : Operator × List Filter => !e.2.isEmpty)
      (l := Operator.all.map fun op => (op, filters op))).map Prod.fst
    simpa [entries, Function.comp_def] using hs
  rw [hnames]
  exact hentries.map Operator.name

namespace Request

theorem parameters_eq (r : Request) : r.parameters =
    (if r.types = [] then [] else [(typeParameter, r.types)]) ++
    (r.ancestorPath.toList.map fun path => (ancestorParameter, [path])) ++
    r.filters.parameters ++
    (if r.summarize then [(summarizeParameter, ["true"])] else []) := rfl

theorem names_sublist (r : Request) : (r.parameters.map (·.1)).Sublist parameterNames := by
  have ht : ((if r.types = [] then ([] : Parameters) else [(typeParameter, r.types)]).map
      (·.1)).Sublist [typeParameter] := by
    by_cases h : r.types = [] <;> simp [h]
  have ha : ((r.ancestorPath.toList.map fun path => (ancestorParameter, [path])).map
      (·.1)).Sublist [ancestorParameter] := by
    cases r.ancestorPath <;> simp
  have hs : ((if r.summarize then [(summarizeParameter, ["true"])] else ([] : Parameters)).map
      (·.1)).Sublist [summarizeParameter] := by
    by_cases h : r.summarize = true <;> simp [h]
  rw [parameters_eq, List.map_append, List.map_append, List.map_append]
  exact ((ht.append ha).append r.filters.names_parameters).append hs

theorem nodup_names (r : Request) : (r.parameters.map (·.1)).Nodup :=
  r.names_sublist.nodup (by decide)

theorem given_filters_reserved (r : Request) {name : String}
    (h : name ∉ Operator.all.map Operator.name) : given name r.filters.parameters = [] :=
  given_eq_nil fun hm => h (r.filters.names_parameters.subset hm)

/-- Each of the four kinds of parameters stands under names of its own. -/
theorem given_parameters (r : Request) (name : String) : given name r.parameters =
    (if typeParameter = name ∧ r.types ≠ [] then [r.types] else []) ++
    (if ancestorParameter = name then r.ancestorPath.toList.map fun path => [path] else []) ++
    given name r.filters.parameters ++
    (if summarizeParameter = name ∧ r.summarize then [["true"]] else []) := by
  have ht : given name (if r.types = [] then [] else [(typeParameter, r.types)]) =
      if typeParameter = name ∧ r.types ≠ [] then [r.types] else [] := by
    by_cases h : r.types = [] <;> simp [given_nil, given_singleton, h]
  have ha : given name (r.ancestorPath.toList.map fun path => (ancestorParameter, [path])) =
      if ancestorParameter = name then r.ancestorPath.toList.map fun path => [path] else [] := by
    cases r.ancestorPath <;> simp [given_nil, given_singleton]
  have hs : given name (if r.summarize then [(summarizeParameter, ["true"])] else []) =
      if summarizeParameter = name ∧ r.summarize then [["true"]] else [] := by
    by_cases h : r.summarize = true <;> simp [given_nil, given_singleton, h]
  rw [parameters_eq, given_append, given_append, given_append, ht, ha, hs]

theorem given_type (r : Request) :
    given typeParameter r.parameters = if r.types = [] then [] else [r.types] := by
  rw [given_parameters, given_filters_reserved r (by decide)]
  by_cases h : r.types = [] <;> simp [h, typeParameter, ancestorParameter, summarizeParameter]

theorem given_ancestor (r : Request) :
    given ancestorParameter r.parameters = r.ancestorPath.toList.map fun path => [path] := by
  rw [given_parameters, given_filters_reserved r (by decide)]
  simp [typeParameter, ancestorParameter, summarizeParameter]

theorem given_summarize (r : Request) :
    given summarizeParameter r.parameters = if r.summarize then [["true"]] else [] := by
  rw [given_parameters, given_filters_reserved r (by decide)]
  simp [typeParameter, ancestorParameter, summarizeParameter]

theorem given_operator (r : Request) (op : Operator) :
    given op.name r.parameters =
      if r.filters op = [] then [] else [(r.filters op).map Filter.wire] := by
  obtain ⟨ht, ha, hs⟩ := op.name_reserved
  rw [given_parameters, r.filters.given_operator]
  simp [ht.symm, ha.symm, hs.symm]

theorem values_ne_nil (r : Request) : ∀ p ∈ r.parameters, p.2 ≠ [] := by
  intro p hp
  rw [parameters_eq] at hp
  simp only [List.mem_append] at hp
  rcases hp with ((hp | hp) | hp) | hp
  · by_cases ht : r.types = []
    · simp [ht] at hp
    · rw [if_neg ht, List.mem_singleton] at hp
      exact hp ▸ ht
  · obtain ⟨path, _, rfl⟩ := List.mem_map.mp hp
    simp
  · obtain ⟨entry, he, rfl⟩ := List.mem_map.mp hp
    simpa using (List.mem_filter.mp he).2
  · by_cases hs : r.summarize = true
    · rw [if_pos hs, List.mem_singleton] at hp
      simp [hp]
    · simp [hs] at hp

/-! ## Reading the parameters back -/

def cutParameters (cut : String → List String) (r : Request) : Parameters :=
  r.parameters.map fun p => (p.1, p.2.flatMap cut)

def recut (cut : String → List String) (r : Request) : Draft where
  types := (r.types.flatMap cut).filter (· ≠ "")
  ancestorPath := r.ancestorPath.bind fun path => (cut path).head?
  summarize := r.summarize
  filters := fun op => ((r.filters op).flatMap fun f => cut f.wire).filterMap (Filter.read? op)

theorem given_cutParameters (cut : String → List String) (r : Request) (name : String) :
    given name (r.cutParameters cut) = (given name r.parameters).map (·.flatMap cut) :=
  given_map name _ _

theorem flatten_given_operator (cut : String → List String) (r : Request) (op : Operator) :
    (given op.name (r.cutParameters cut)).flatten = (r.filters op).flatMap fun f => cut f.wire := by
  rw [given_cutParameters, given_operator]
  by_cases h : r.filters op = [] <;> simp [h, List.flatMap_map]

theorem after_cutParameters {cut : String → List String} (hcut : cut "true" = ["true"])
    (r : Request) : Draft.after {} (r.cutParameters cut) = r.recut cut := by
  have ht : (given typeParameter (r.cutParameters cut)).flatten = r.types.flatMap cut := by
    rw [given_cutParameters, given_type]
    by_cases h : r.types = [] <;> simp [h]
  have ha : ((given ancestorParameter (r.cutParameters cut)).filterMap List.head?).getLast? =
      r.ancestorPath.bind fun path => (cut path).head? := by
    rw [given_cutParameters, given_ancestor]
    cases r.ancestorPath with
    | none => rfl
    | some path => cases h : cut path <;> simp [h]
  have hs : ((given summarizeParameter (r.cutParameters cut)).getLast?.map
      (·.contains "true")).getD false = r.summarize := by
    rw [given_cutParameters, given_summarize]
    cases r.summarize <;> simp [hcut]
  simp only [Draft.after, recut, ht, ha, hs, flatten_given_operator, List.nil_append,
    Option.or_none]

theorem readable_cutParameters_iff (cut : String → List String) (r : Request) :
    (∀ p ∈ r.cutParameters cut, Readable p) ↔
      ∀ op, ∀ f ∈ r.filters op, ∀ text ∈ cut f.wire, (Filter.read? op text).isSome := by
  have hnames : ∀ p ∈ r.cutParameters cut, p.1 ∈ parameterNames := by
    intro p hp
    obtain ⟨q, hq, rfl⟩ := List.mem_map.mp hp
    exact r.names_sublist.subset (List.mem_map.mpr ⟨q, hq, rfl⟩)
  rw [forall_readable_iff]
  simp only [flatten_given_operator, List.mem_flatMap]
  constructor
  · rintro ⟨_, h⟩ op f hf text ht
    exact h op text ⟨f, hf, ht⟩
  · intro h
    exact ⟨hnames, fun op text ⟨f, hf, ht⟩ => h op f hf text ht⟩

end Request

end DeviceGraph.Search
