import DeviceGraph.Proofs.Search.Readability

/-!
# A request is read back from its statement

The text of a compiled request gives back its conditions, and these give back
everything but the path of the group above and the values of the filters. Both
stand under names that are bound once, so the parameters give them back.
-/

set_option autoImplicit false

namespace DeviceGraph.Search

/-! ## Conditions of a request -/

theorem not_mem_numbered {stem : String} {n : Nat} {c : Char} (hs : c ∉ stem.toList)
    (hc : c.isDigit = false) : c ∉ (Statement.numbered stem n).toList := by
  intro hm
  rcases Statement.mem_numbered hm with hm | hd
  · exact hs hm
  · rw [hc] at hd
    cases hd

theorem not_mem_pathTag {size : Nat} {c : Char} (hs : c ≠ 'h') (hc : c.isDigit = false)
    (hu : c ≠ '_') : c ∉ (pathTag size).toList := by
  have htag : pathTag size = Statement.numbered "h" size ++ "_" := rfl
  rw [htag, String.toList_append, List.mem_append, not_or]
  exact ⟨not_mem_numbered (by simpa using hs) hc, by simpa using hu⟩

theorem plain_steps (size i : Nat) {hops : List Hop} (h : ∀ hop ∈ hops, hop.direction ≠ .both) :
    ∀ step ∈ steps (pathTag size) i hops, Condition.PlainStep step := by
  induction hops generalizing i with
  | nil => exact fun _ hm => absurd hm List.not_mem_nil
  | cons hop hops ih =>
    intro step hm
    rcases List.mem_cons.mp hm with rfl | hm
    · have hvar : ∀ c : Char, c ≠ 'h' → c.isDigit = false → c ≠ '_' →
          c ∉ (Statement.numbered (pathTag size) i).toList :=
        fun c hh hd hu => not_mem_numbered (not_mem_pathTag hh hd hu) hd
      exact ⟨h hop List.mem_cons_self, hvar ')' (by decide) (by decide) (by decide),
        hvar '.' (by decide) (by decide) (by decide)⟩
    · exact ih (i + 1) (fun other ho => h other (List.mem_cons_of_mem hop ho)) step hm

theorem plain_filterPart (i n : Nat) {fs : List (Operator × Filter)}
    (h : ∀ entry ∈ fs, entry.2.Writable) : ∀ c ∈ filterPart i n fs, c.Plain := by
  induction fs generalizing i n with
  | nil => exact fun _ hm => absurd hm List.not_mem_nil
  | cons entry fs ih =>
    intro c hm
    rcases List.mem_cons.mp hm with rfl | hm
    · exact ⟨not_mem_numbered (by decide) (by decide), not_mem_numbered (by decide) (by decide),
        plain_steps _ 0 (h entry List.mem_cons_self).directions⟩
    · exact ih (i + 1) (n + 1) (fun other ho => h other (List.mem_cons_of_mem _ ho)) c hm

theorem plain_conditions {r : Request} (h : r.Valid) : ∀ c ∈ r.conditions, c.Plain := by
  intro c hm
  rcases List.mem_append.mp hm with hm | hm
  · rcases List.mem_append.mp hm with hm | hm
    · by_cases ht : r.types = []
      · simp [ht] at hm
      · rw [if_neg ht, List.mem_singleton] at hm
        exact hm ▸ ht
    · cases hp : r.ancestorPath with
      | none => simp [hp] at hm
      | some path =>
        rw [hp, Option.isSome_some, if_pos rfl, List.mem_singleton] at hm
        exact hm ▸ trivial
  · exact plain_filterPart _ _ (fun entry he =>
      h.writable entry.1 entry.2 ((Filters.mem_toList _ _ _).mp he)) c hm

/-! ## What the conditions say -/

namespace Condition

def types? : Condition → Option (List String)
  | types ts => some ts
  | _ => none

def isFilter : Condition → Bool
  | filter .. => true
  | _ => false

end Condition

theorem isFilter_of_mem_filterPart {i n : Nat} {fs : List (Operator × Filter)} {c : Condition}
    (h : c ∈ filterPart i n fs) : c.isFilter = true := by
  induction fs generalizing i n with
  | nil => exact absurd h List.not_mem_nil
  | cons entry fs ih =>
    rcases List.mem_cons.mp h with rfl | h
    · rfl
    · exact ih h

theorem filter_conditions (r : Request) : r.conditions.filter (·.isFilter) =
    filterPart 0 (if r.ancestorPath.isSome then 1 else 0) r.filters.toList := by
  have hfilters : ∀ i n fs, (filterPart i n fs).filter (·.isFilter) = filterPart i n fs :=
    fun i n fs => List.filter_eq_self.mpr fun c hc => isFilter_of_mem_filterPart hc
  have ht : (if r.types = [] then [] else [Condition.types r.types]).filter (·.isFilter) = [] := by
    split <;> rfl
  have ha : (if r.ancestorPath.isSome then [Condition.below] else []).filter (·.isFilter) = [] := by
    split <;> rfl
  rw [Request.conditions, List.filter_append, List.filter_append, ht, ha, hfilters]
  rfl

theorem types_conditions (r : Request) :
    r.conditions.filterMap (·.types?) = if r.types = [] then [] else [r.types] := by
  have hfilters : ∀ i n fs, (filterPart i n fs).filterMap (·.types?) = [] := by
    intro i n fs
    rw [List.filterMap_eq_nil_iff]
    intro c hc
    have hf := isFilter_of_mem_filterPart hc
    cases c <;> first | rfl | cases hf
  have ha : (if r.ancestorPath.isSome then [Condition.below] else []).filterMap
      (·.types?) = [] := by
    split <;> rfl
  rw [Request.conditions, List.filterMap_append, List.filterMap_append, hfilters, ha]
  split <;> rfl

theorem types_eq_of_conditions {r q : Request} (h : r.conditions = q.conditions) :
    r.types = q.types := by
  have ht := congrArg (List.filterMap (·.types?)) h
  rw [types_conditions, types_conditions] at ht
  by_cases hr : r.types = [] <;> by_cases hq : q.types = [] <;> simp_all

/-! ## What the parameters say -/

theorem param?_bindFilters_of_bound {s : Statement} (hs : s.Fresh) (fs : List (Operator × Filter))
    {name : String} {v : Json} (hv : s.param? name = some v) :
    (bindFilters s fs).param? name = some v := by
  induction fs generalizing s with
  | nil => exact hv
  | cons entry fs ih =>
    exact ih (hs.bindFresh stem_lettered _) (hs.param?_bindFresh_of_bound stem_lettered _ hv)

theorem param?_bindFilters_of_lettered (s : Statement) (fs : List (Operator × Filter))
    {name : String} (hn : Statement.Lettered name) :
    (bindFilters s fs).param? name = s.param? name := by
  induction fs generalizing s with
  | nil => rfl
  | cons entry fs ih =>
    have hstep := ih (s.bindFresh "s" entry.2.value).1
    rw [Statement.param?_bindFresh, if_neg (Statement.lettered_ne_numbered hn _ _)] at hstep
    exact hstep

theorem param?_bindFilters_first {s : Statement} (hs : s.Fresh) (op : Operator) (f : Filter)
    (fs : List (Operator × Filter)) :
    (bindFilters s ((op, f) :: fs)).param? (Statement.numbered "s" s.issued) = some f.value := by
  refine param?_bindFilters_of_bound (hs.bindFresh stem_lettered f.value) fs ?_
  rw [Statement.param?_bindFresh, if_pos rfl]

theorem map_fst_steps (tag : String) (i : Nat) (hops : List Hop) :
    (steps tag i hops).map (·.1) = hops := by
  induction hops generalizing i with
  | nil => rfl
  | cons hop hops ih => rw [steps, List.map_cons, ih]

/-- Conditions give the filters up to their values, which stand under the names
of the conditions. -/
theorem filters_eq_of_conditions {s s' : Statement} (hs : s.Fresh) (hs' : s'.Fresh)
    (hi : s.issued = s'.issued) {n n' : Nat} {fs gs : List (Operator × Filter)}
    (hc : filterPart s.issued n fs = filterPart s'.issued n' gs)
    (hv : ∀ k, (bindFilters s fs).param? (Statement.numbered "s" k) =
      (bindFilters s' gs).param? (Statement.numbered "s" k)) : fs = gs := by
  induction fs generalizing s s' n n' gs with
  | nil =>
    cases gs with
    | nil => rfl
    | cons other gs => cases hc
  | cons entry fs ih =>
    cases gs with
    | nil => cases hc
    | cons other gs =>
      obtain ⟨op, f⟩ := entry
      obtain ⟨op', g⟩ := other
      obtain ⟨hhead, htail⟩ := List.cons.inj hc
      obtain ⟨_, hop, hfield, hsteps⟩ := Condition.filter.inj hhead
      have hhops := congrArg (List.map (·.1)) hsteps
      rw [map_fst_steps, map_fst_steps] at hhops
      have hvalue : f.value = g.value := by
        have hfirst := hv s.issued
        rw [param?_bindFilters_first hs, hi, param?_bindFilters_first hs'] at hfirst
        exact Option.some.inj hfirst
      have hrest := ih (hs.bindFresh stem_lettered f.value) (hs'.bindFresh stem_lettered g.value)
        (congrArg (· + 1) hi) htail hv
      cases f
      cases g
      subst hop hfield hvalue hhops hrest
      rfl

theorem param?_bindPage {name : String} (ho : name ≠ "offset") (hc : name ≠ "count")
    (s : Statement) (page : Option Page) : (bindPage s page).param? name = s.param? name := by
  cases page with
  | none => rfl
  | some page => rw [bindPage, Statement.param?_bind, if_neg hc, Statement.param?_bind, if_neg ho]

theorem param?_bindings (r : Request) (scope : Option String) (page : Option Page) {name : String}
    (ho : name ≠ "offset") (hc : name ≠ "count") : (r.bindings scope page).param? name =
      (bindFilters (bindScope { access := .read } scope) r.filters.toList).param? name := by
  unfold Request.bindings
  split
  · rfl
  · exact param?_bindPage ho hc _ page

theorem param?_ancestor (r : Request) (scope : Option String) (page : Option Page) :
    (r.bindings scope page).param? "ancestor" = scope.map Json.string := by
  rw [param?_bindings r scope page (by decide) (by decide),
    param?_bindFilters_of_lettered _ _ (by decide)]
  cases scope <;> rfl

theorem ancestorPath_of_scopeId {r q : Request} {scope : Option String}
    (hr : r.scopeId = .ok scope) (hq : q.scopeId = .ok scope) :
    r.ancestorPath = q.ancestorPath := by
  have hsome := (isSome_of_scopeId hr).symm.trans (isSome_of_scopeId hq)
  unfold Request.scopeId at hr hq
  cases hp : r.ancestorPath with
  | none =>
    rw [hp] at hsome
    exact (Option.isNone_iff_eq_none.mp (by simpa using hsome.symm)).symm
  | some path =>
    cases hp' : q.ancestorPath with
    | none =>
      rw [hp, hp'] at hsome
      cases hsome
    | some path' =>
      rw [hp] at hr
      rw [hp'] at hq
      obtain ⟨id, hid, rfl⟩ := (Checks.map_eq_ok_iff _ _ _).mp hr
      obtain ⟨id', hid', hsame⟩ := (Checks.map_eq_ok_iff _ _ _).mp hq
      cases hsame
      exact congrArg some (Identity.groupId_inj hid hid')

theorem Filters.toList_inj {fs gs : Filters} (h : fs.toList = gs.toList) : fs = gs := by
  have hof : ∀ (filters : Filters) (op : Operator),
      (filters.toList.filter fun entry => entry.1 = op).map (·.2) = filters op := by
    intro filters op
    cases op <;> simp [toList, Operator.all, List.filter_map, Function.comp_def]
  funext op
  rw [← hof fs op, h, hof gs op]

namespace Request

/-- A statement that was compiled shows the vertex id of the group above. -/
theorem scope_of_statement {r : Request} (h : r.Valid) {page : Option Page} {s : Statement}
    (hs : r.statement page = .ok s) : ∃ scope, r.scopeId = .ok scope ∧
      s.text.toList = r.chars page ∧ s.params = (r.bindings scope page).params := by
  cases hscope : r.scopeId with
  | error e =>
    rw [statement_of_error h hscope] at hs
    cases hs
  | ok scope =>
    obtain ⟨t, ht, htext, hparams⟩ := statement_of_scope h hscope page
    rw [hs] at ht
    cases ht
    exact ⟨scope, rfl, htext, hparams⟩

theorem head?_resultText (r : Request) (page : Option Page) :
    (r.resultText page).toList.head? = some (if r.summarize then 'R' else 'W') := by
  cases hr : r.summarize <;> simp [resultText, hr]

theorem head?_resultText_ne_blank (r : Request) (page : Option Page) :
    (r.resultText page).toList.head? ≠ some ' ' := by
  rw [head?_resultText]
  cases r.summarize <;> simp

theorem summarize_eq_of_resultText {r q : Request} {page : Option Page}
    (h : (r.resultText page).toList = (q.resultText page).toList) : r.summarize = q.summarize := by
  have hhead := congrArg List.head? h
  rw [head?_resultText, head?_resultText, Option.some.injEq] at hhead
  revert hhead
  cases r.summarize <;> cases q.summarize <;> decide

/-- Two requests with the same conditions and the same parameters have the same filters. -/
theorem filters_eq_of_bindings {r q : Request} {scope : Option String} {page : Option Page}
    (hc : r.conditions = q.conditions) (hv : ∀ name, (r.bindings scope page).param? name =
      (q.bindings scope page).param? name) : r.filters = q.filters := by
  have hpart := congrArg (List.filter (·.isFilter)) hc
  rw [filter_conditions, filter_conditions] at hpart
  refine Filters.toList_inj (filters_eq_of_conditions (fresh_bindScope scope)
    (fresh_bindScope scope) rfl (by rw [issued_bindScope]; exact hpart) fun k => ?_)
  have hlettered : ∀ name, Statement.Lettered name → Statement.numbered "s" k ≠ name :=
    fun name hn => (Statement.lettered_ne_numbered hn "s" k).symm
  rw [← param?_bindings r scope page (hlettered _ (by decide)) (hlettered _ (by decide)),
    hv, param?_bindings _ _ _ (hlettered _ (by decide)) (hlettered _ (by decide))]

theorem chars_eq (r : Request) (page : Option Page) : r.chars page = "MATCH (n)\nWHERE ".toList ++
    (Condition.charsOfAll r.conditions ++ '\n' :: (r.resultText page).toList) := by
  unfold chars
  rw [List.append_assoc]

/-- Two accepted requests with the same text and the same parameters are the
same request: no name can make a search look like another one. -/
theorem eq_of_same_statement {d₁ d₂ : Draft} {r₁ r₂ : Request} (h₁ : d₁.build = .ok r₁)
    (h₂ : d₂.build = .ok r₂) {page : Option Page} {s₁ s₂ : Statement}
    (hs₁ : r₁.statement page = .ok s₁) (hs₂ : r₂.statement page = .ok s₂)
    (htext : s₁.text = s₂.text) (hparams : s₁.params = s₂.params) : r₁ = r₂ := by
  have hv₁ := Draft.valid_of_build h₁
  have hv₂ := Draft.valid_of_build h₂
  obtain ⟨scope₁, hscope₁, hc₁, hp₁⟩ := scope_of_statement hv₁ hs₁
  obtain ⟨scope₂, hscope₂, hc₂, hp₂⟩ := scope_of_statement hv₂ hs₂
  have hparam : ∀ name, (r₁.bindings scope₁ page).param? name =
      (r₂.bindings scope₂ page).param? name := by
    intro name
    rw [Statement.param?, Statement.param?, ← hp₁, ← hp₂, hparams]
  have hchars : r₁.chars page = r₂.chars page := by rw [← hc₁, ← hc₂, htext]
  rw [chars_eq, chars_eq] at hchars
  obtain ⟨hconditions, hresult⟩ := Condition.charsOfAll_append_inj (plain_conditions hv₁)
    (plain_conditions hv₂) (conditions_ne_nil hv₁) (conditions_ne_nil hv₂)
    (head?_resultText_ne_blank r₁ page) (head?_resultText_ne_blank r₂ page)
    (List.append_cancel_left hchars)
  have htypes : r₁.types = r₂.types := types_eq_of_conditions hconditions
  have hscope : scope₁ = scope₂ := by
    have ha := hparam "ancestor"
    rw [param?_ancestor, param?_ancestor] at ha
    exact Option.map_injective (fun _ _ => Json.string.inj) ha
  subst hscope
  have hpath : r₁.ancestorPath = r₂.ancestorPath := ancestorPath_of_scopeId hscope₁ hscope₂
  have hfilters : r₁.filters = r₂.filters := filters_eq_of_bindings hconditions hparam
  have hsummarize : r₁.summarize = r₂.summarize := summarize_eq_of_resultText hresult
  cases r₁
  cases r₂
  simp only [mk.injEq]
  exact ⟨htypes, hpath, hsummarize, hfilters⟩

def quotingDraft (types : List String) : Draft :=
  Draft.filter { types, ancestorPath := some "/eu" } .eq
    ⟨"state` = $s0", .string "off", [⟨"r`]-(n)\n  AND n.", .incoming⟩]⟩

theorem eq_of_same_statement_repeated_type : ∃ s,
    (quotingDraft ["ecu", "ecu"]).build = .ok (quotingDraft ["ecu", "ecu"]).request ∧
      (quotingDraft ["ecu"]).build = .ok (quotingDraft ["ecu"]).request ∧
      (quotingDraft ["ecu", "ecu"]).request.statement none = .ok s ∧
      (quotingDraft ["ecu"]).request.statement none = .ok s ∧
      (quotingDraft ["ecu", "ecu"]).request = (quotingDraft ["ecu"]).request := by
  have h₁ : (quotingDraft ["ecu", "ecu"]).build =
    .ok (quotingDraft ["ecu", "ecu"]).request := by rfl
  have h₂ : (quotingDraft ["ecu"]).build = .ok (quotingDraft ["ecu"]).request := by rfl
  have hscope : (quotingDraft ["ecu"]).request.scopeId = .ok (some "group___/eu") := by rfl
  obtain ⟨s, hs, _⟩ := statement_of_scope (Draft.valid_of_build h₂) hscope none
  exact ⟨s, h₁, h₂, hs, hs, eq_of_same_statement h₁ h₂ hs hs rfl rfl⟩

end Request

end DeviceGraph.Search
