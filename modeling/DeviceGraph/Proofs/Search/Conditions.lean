import DeviceGraph.Proofs.Identity
import DeviceGraph.Proofs.Search.Request
import DeviceGraph.Proofs.Statement.Parameters
import DeviceGraph.Proofs.Statement.Text
import DeviceGraph.Search.Statement

/-!
# What a request is compiled to

The conditions of a request are given here as data, with the parameter and the
variables that each of them names, and so is the text that they are written as.
For a valid request this is what compiling it gives, unless the path of the group
above has no vertex id; nothing else can go wrong.
-/

set_option autoImplicit false

namespace DeviceGraph.Search

/-- A condition on the vertices that are searched for. Each hop of a path comes
with the variable that it reaches. -/
inductive Condition
  | types (types : List String)
  | below
  | filter (slot : String) (op : Operator) (field : String) (path : List (Hop × String))

namespace Condition

def nameChars (name : String) : List Char := Identifier.quote name.toList

def typeChars (type : String) : List Char := 'n' :: ':' :: nameChars type

def stepChars (step : Hop × String) : List Char :=
  match step.1.direction with
  | .incoming =>
    "<-[:".toList ++ nameChars step.1.relation ++ "]-(".toList ++ step.2.toList ++ [')']
  | _ => "-[:".toList ++ nameChars step.1.relation ++ "]->(".toList ++ step.2.toList ++ [')']

def compareChars (var field : String) (op : Operator) (slot : String) : List Char :=
  var.toList ++ '.' :: nameChars field ++ ' ' :: op.comparison.toList ++ ' ' :: '$' :: slot.toList

def pathStart : String := "EXISTS \x7b MATCH (n)"

def chars : Condition → List Char
  | types ts => '(' :: " OR ".toList.intercalate (ts.map typeChars) ++ [')']
  | below => pathStart.toList ++ "-[*1..]->(a:".toList ++ nameChars Category.group.label ++
      ") WHERE a.id = $ancestor \x7d".toList
  | filter slot op field path =>
    match path.getLast? with
    | none => compareChars "n" field op slot
    | some last => pathStart.toList ++ path.flatMap stepChars ++ " WHERE ".toList ++
        compareChars last.2 field op slot ++ " \x7d".toList

def charsOfAll (conditions : List Condition) : List Char :=
  "\n  AND ".toList.intercalate (conditions.map chars)

end Condition

def steps (tag : String) : Nat → List Hop → List (Hop × String)
  | _, [] => []
  | i, hop :: rest => (hop, tag ++ decimalText i) :: steps tag (i + 1) rest

def pathTag (size : Nat) : String := "h" ++ decimalText size ++ "_"

/-- The conditions of filters, when `issued` names have been made and `size`
parameters are bound. -/
def filterPart : Nat → Nat → List (Operator × Filter) → List Condition
  | _, _, [] => []
  | issued, size, (op, f) :: rest =>
    .filter (Statement.numbered "s" issued) op f.field (steps (pathTag (size + 1)) 0 f.hops) ::
      filterPart (issued + 1) (size + 1) rest

namespace Request

def conditions (r : Request) : List Condition :=
  (if r.types = [] then [] else [.types r.types]) ++
  (if r.ancestorPath.isSome then [.below] else []) ++
  filterPart 0 (if r.ancestorPath.isSome then 1 else 0) r.filters.toList

def resultText (r : Request) (page : Option Page) : String :=
  if r.summarize then "RETURN count(DISTINCT n) AS result"
  else "WITH DISTINCT n\nORDER BY n.id" ++
    (if page.isSome then "\nSKIP $offset LIMIT $count" else "") ++
    "\nRETURN properties(n) AS result"

def chars (r : Request) (page : Option Page) : List Char :=
  "MATCH (n)\nWHERE ".toList ++ Condition.charsOfAll r.conditions ++
    '\n' :: (r.resultText page).toList

def scopeId (r : Request) : Except DomainError (Option String) :=
  match r.ancestorPath with
  | none => .ok none
  | some path => some <$> Identity.groupId path

end Request

def bindFilters (s : Statement) (fs : List (Operator × Filter)) : Statement :=
  fs.foldl (fun s entry => (s.bindFresh "s" entry.2.value).1) s

def bindScope (s : Statement) : Option String → Statement
  | none => s
  | some id => s.bind "ancestor" (.string id)

def bindPage (s : Statement) : Option Page → Statement
  | none => s
  | some page => (s.bind "offset" (.ofNat page.offset)).bind "count" (.ofNat page.count)

/-! ## Compiling -/

theorem hopPieces_ok (tag : String) (i : Nat) (hops : List Hop)
    (h : ∀ hop ∈ hops, PlainName hop.relation) : ∃ ps, hopPieces tag i hops = .ok ps ∧
      Piece.charsOf ps = (steps tag i hops).flatMap Condition.stepChars := by
  induction hops generalizing i with
  | nil => exact ⟨[], rfl, rfl⟩
  | cons hop hops ih =>
    obtain ⟨ps, hps, hchars⟩ := ih (i + 1) fun other ho => h other (List.mem_cons_of_mem hop ho)
    have hname := Identifier.of_ne_empty (h hop List.mem_cons_self).1
    refine ⟨_, by rw [hopPieces, hname, hps]; rfl, ?_⟩
    cases hd : hop.direction <;>
      simp [hd, hchars, steps, Condition.stepChars, Piece.chars, Condition.nameChars]

theorem exists_getLast?_steps (tag : String) (i : Nat) {hops : List Hop} (h : hops ≠ []) :
    ∃ last, (steps tag i hops).getLast? = some last ∧
      last.2 = tag ++ decimalText (i + hops.length - 1) := by
  induction hops generalizing i with
  | nil => exact absurd rfl h
  | cons hop hops ih =>
    by_cases hnil : hops = []
    · refine ⟨(hop, tag ++ decimalText i), by rw [hnil]; rfl, ?_⟩
      simp [hnil]
    · obtain ⟨last, hlast, hvar⟩ := ih (i + 1) hnil
      have hne : steps tag (i + 1) hops ≠ [] := by
        intro he
        rw [he] at hlast
        cases hlast
      refine ⟨last, by rw [steps, List.getLast?_cons_of_ne_nil hne, hlast], ?_⟩
      rw [hvar]
      congr 2
      push_cast [List.length_cons]
      omega

theorem filterCondition_of_hops (s : Statement) (op : Operator) {f : Filter}
    (hf : f.field ≠ "") (hh : f.hops ≠ []) (ps : List Piece)
    (hps : hopPieces (pathTag (s.bindFresh "s" f.value).1.params.size) 0 f.hops = .ok ps) :
    filterCondition s op f = .ok ((s.bindFresh "s" f.value).1,
      .text "EXISTS \x7b MATCH (n)" :: ps ++ .text " WHERE " ::
        [.text (pathTag (s.bindFresh "s" f.value).1.params.size ++
            decimalText (f.hops.length - 1) ++ "."), .name ⟨f.field, hf⟩,
          .text (" " ++ op.comparison ++ " "), .slot (Statement.numbered "s" s.issued)] ++
        [.text " \x7d"]) := by
  rw [filterCondition, Identifier.of_ne_empty hf]
  simp only [bind, Except.bind, if_neg hh]
  unfold pathTag at hps ⊢
  rw [hps]
  rfl

theorem stem_lettered : Statement.Lettered "s" := by decide

/-- The condition of a filter, written with the next name for its value. -/
theorem filterCondition_ok (s : Statement) (op : Operator) {f : Filter} (h : f.Writable) :
    ∃ ps, filterCondition s op f = .ok ((s.bindFresh "s" f.value).1, ps) ∧
      Piece.charsOf ps = (Condition.filter (Statement.numbered "s" s.issued) op f.field
        (steps (pathTag (s.bindFresh "s" f.value).1.params.size) 0 f.hops)).chars := by
  have hfield : f.field ≠ "" := h.field.1
  by_cases hh : f.hops = []
  · refine ⟨[.text "n.", .name ⟨f.field, hfield⟩, .text (" " ++ op.comparison ++ " "),
      .slot (Statement.numbered "s" s.issued)], ?_, ?_⟩
    · rw [filterCondition, Identifier.of_ne_empty hfield]
      simp only [bind, Except.bind, if_pos hh]
      rfl
    · simp [hh, steps, Condition.chars, Condition.compareChars, Condition.nameChars, Piece.chars]
  · have hcondition := filterCondition_of_hops s op hfield hh
    generalize pathTag (s.bindFresh "s" f.value).1.params.size = tag at hcondition ⊢
    obtain ⟨ps, hps, hchars⟩ := hopPieces_ok tag 0 f.hops h.relations
    obtain ⟨last, hlast, hvar⟩ := exists_getLast?_steps tag 0 hh
    refine ⟨_, hcondition ps hps, ?_⟩
    rw [Int.natCast_zero, Int.zero_add] at hvar
    simp [Condition.chars, hlast, hvar, hchars, Condition.pathStart, Condition.compareChars,
      Condition.nameChars, Piece.chars]

theorem filterConditions_ok {s : Statement} (hs : s.Fresh) (fs : List (Operator × Filter))
    (h : ∀ entry ∈ fs, entry.2.Writable) :
    ∃ pss, filterConditions s fs = .ok (bindFilters s fs, pss) ∧
      pss.map Piece.charsOf = (filterPart s.issued s.params.size fs).map Condition.chars := by
  induction fs generalizing s with
  | nil => exact ⟨[], rfl, rfl⟩
  | cons entry fs ih =>
    obtain ⟨op, f⟩ := entry
    obtain ⟨ps, hps, hchars⟩ := filterCondition_ok s op (h (op, f) List.mem_cons_self)
    obtain ⟨pss, hpss, hrest⟩ := ih (hs.bindFresh stem_lettered f.value)
      fun other ho => h other (List.mem_cons_of_mem _ ho)
    refine ⟨ps :: pss, ?_, ?_⟩
    · rw [filterConditions, hps]
      simp only [bind, Except.bind, hpss]
      rfl
    · rw [hs.size_bindFresh stem_lettered] at hchars hrest
      rw [List.map_cons, hchars, hrest]
      rfl

theorem typeConditions_ok {types : List String} (h : "" ∉ types) :
    ∃ pss, typeConditions types = .ok pss ∧ pss.map Piece.charsOf =
      (if types = [] then [] else [Condition.types types]).map Condition.chars := by
  by_cases ht : types = []
  · exact ⟨[], by rw [typeConditions, if_pos ht], by rw [if_pos ht]; rfl⟩
  · obtain ⟨labels, hl, rfl⟩ := Identifier.exists_mapM_of h
    refine ⟨_, by rw [typeConditions, if_neg ht, hl]; rfl, ?_⟩
    rw [if_neg ht]
    have hlabels : (labels.map fun label => [Piece.text "n:", Piece.name label]).map Piece.charsOf =
        (labels.map (·.name)).map Condition.typeChars := by
      simp [Piece.chars, Condition.typeChars, Condition.nameChars]
    simp [Piece.charsOf_joinPieces, hlabels, Condition.chars, Piece.chars]

theorem ancestorConditions_of_scope {r : Request} {scope : Option String}
    (h : r.scopeId = .ok scope) (s : Statement) :
    ∃ pss, ancestorConditions s r.ancestorPath = .ok (bindScope s scope, pss) ∧
      pss.map Piece.charsOf =
        (if r.ancestorPath.isSome then [Condition.below] else []).map Condition.chars := by
  unfold Request.scopeId at h
  cases hp : r.ancestorPath with
  | none =>
    rw [hp] at h
    cases h
    exact ⟨[], rfl, rfl⟩
  | some path =>
    rw [hp] at h
    obtain ⟨id, hid, rfl⟩ := (Checks.map_eq_ok_iff _ _ _).mp h
    refine ⟨_, by rw [ancestorConditions, hid]; rfl, ?_⟩
    simp [Condition.chars, Condition.nameChars, Piece.chars, Condition.pathStart]
    rfl

theorem ancestorConditions_of_error {r : Request} {e : DomainError}
    (h : r.scopeId = .error e) (s : Statement) :
    ancestorConditions s r.ancestorPath = .error (.domain e) := by
  unfold Request.scopeId at h
  cases hp : r.ancestorPath with
  | none =>
    rw [hp] at h
    cases h
  | some path =>
    rw [hp] at h
    cases hid : Identity.groupId path with
    | ok id =>
      simp only [hid] at h
      cases h
    | error fault =>
      simp only [hid] at h
      cases h
      rw [ancestorConditions, hid]
      rfl

theorem isSome_of_scopeId {r : Request} {scope : Option String} (h : r.scopeId = .ok scope) :
    scope.isSome = r.ancestorPath.isSome := by
  unfold Request.scopeId at h
  cases hp : r.ancestorPath with
  | none =>
    rw [hp] at h
    cases h
    rfl
  | some path =>
    rw [hp] at h
    obtain ⟨id, _, rfl⟩ := (Checks.map_eq_ok_iff _ _ _).mp h
    rfl

theorem fresh_bindScope (scope : Option String) :
    (bindScope { access := .read } scope).Fresh := by
  cases scope with
  | none => exact Statement.fresh_new .read
  | some id => exact (Statement.fresh_new .read).bind (by decide) (.string id)

theorem issued_bindScope (scope : Option String) :
    (bindScope { access := .read } scope).issued = 0 := by
  cases scope <;> rfl

theorem size_bindScope (scope : Option String) :
    (bindScope { access := .read } scope).params.size = if scope.isSome then 1 else 0 := by
  cases scope <;> rfl

theorem clauses_bindFilters (s : Statement) (fs : List (Operator × Filter)) :
    (bindFilters s fs).clauses = s.clauses := by
  induction fs generalizing s with
  | nil => rfl
  | cons entry fs ih => exact ih _

theorem clauses_bindScope (scope : Option String) :
    (bindScope { access := .read } scope).clauses = [] := by
  cases scope <;> rfl

theorem conditions_ne_nil {r : Request} (h : r.Valid) : r.conditions ≠ [] := by
  intro he
  obtain ⟨h₁, hf⟩ := List.append_eq_nil_iff.mp he
  obtain ⟨ht, _⟩ := List.append_eq_nil_iff.mp h₁
  rcases h.asks with hasks | ⟨op, hop⟩
  · rw [if_neg hasks] at ht
    cases ht
  · cases hl : r.filters.toList with
    | nil => exact hop ((Filters.toList_eq_nil_iff _).mp hl op)
    | cons entry rest =>
      rw [hl] at hf
      cases hf

namespace Request

def bindings (r : Request) (scope : Option String) (page : Option Page) : Statement :=
  let s := bindFilters (bindScope { access := .read } scope) r.filters.toList
  if r.summarize then s else bindPage s page

theorem toList_text_result (r : Request) (page : Option Page) {s : Statement} (h : s.text ≠ "") :
    (if r.summarize then s.push (.written [.text "RETURN count(DISTINCT n) AS result"])
      else pushPage s page).text.toList = s.text.toList ++ '\n' :: (r.resultText page).toList := by
  cases hr : r.summarize with
  | true => simp [Statement.toList_text_push h, resultText, hr, Clause.pieces, Piece.chars]
  | false =>
    have hwith := Statement.text_push_ne_empty h
      (.written [.text "WITH DISTINCT n\nORDER BY n.id"])
    cases page <;> simp [pushPage, Statement.push_bind, Statement.text_bind,
      Statement.toList_text_push, Statement.text_push_ne_empty, hwith, h, resultText, hr,
      Clause.pieces, Piece.chars]

/-- A valid request whose group above has a vertex id is compiled to its conditions. -/
theorem statement_of_scope {r : Request} (h : r.Valid) {scope : Option String}
    (hs : r.scopeId = .ok scope) (page : Option Page) : ∃ s, r.statement page = .ok s ∧
      s.text.toList = r.chars page ∧ s.params = (r.bindings scope page).params := by
  obtain ⟨types, htypes, htchars⟩ := typeConditions_ok h.named
  obtain ⟨above, habove, hachars⟩ := ancestorConditions_of_scope hs { access := .read }
  have hwritable : ∀ entry ∈ r.filters.toList, entry.2.Writable := fun entry hm =>
    h.writable entry.1 entry.2 ((Filters.mem_toList _ _ _).mp hm)
  obtain ⟨filters, hfilters, hfchars⟩ := filterConditions_ok (fresh_bindScope scope) _ hwritable
  have hconditions : (types ++ above ++ filters).map Piece.charsOf =
      r.conditions.map Condition.chars := by
    rw [issued_bindScope, size_bindScope, isSome_of_scopeId hs] at hfchars
    rw [List.map_append, List.map_append, htchars, hachars, hfchars, conditions,
      List.map_append, List.map_append]
  have hne : types ++ above ++ filters ≠ [] := by
    intro he
    rw [he] at hconditions
    exact conditions_ne_nil h (List.map_eq_nil_iff.mp hconditions.symm)
  have hclauses : (bindFilters (bindScope { access := .read } scope) r.filters.toList).clauses =
      [] := by
    rw [clauses_bindFilters, clauses_bindScope]
  have hmatch := Statement.toList_text_push_first hclauses (.written [.text "MATCH (n)"])
  have hmatch_ne : ((bindFilters (bindScope { access := .read } scope) r.filters.toList).push
      (.written [.text "MATCH (n)"])).text ≠ "" := by
    intro he
    rw [he] at hmatch
    cases hmatch
  refine ⟨_, by
    rw [statement, htypes]
    simp only [bind, Except.bind, habove, hfilters, if_neg hne]
    rfl, ?_, ?_⟩
  · rw [toList_text_result r page (Statement.text_push_ne_empty hmatch_ne _),
      Statement.toList_text_push hmatch_ne, hmatch]
    unfold chars Condition.charsOfAll
    rw [← hconditions]
    simp [Clause.pieces, Piece.charsOf_joinPieces, Piece.chars]
  · unfold bindings
    cases r.summarize <;> cases page <;> rfl

theorem statement_of_error {r : Request} (h : r.Valid) {e : DomainError}
    (hs : r.scopeId = .error e) (page : Option Page) :
    r.statement page = .error (.domain e) := by
  obtain ⟨types, htypes, _⟩ := typeConditions_ok h.named
  have habove := ancestorConditions_of_error hs { access := .read }
  rw [statement, htypes]
  simp only [bind, Except.bind, habove]

end Request

end DeviceGraph.Search
