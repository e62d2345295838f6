import DeviceGraph.Proofs.Search.Conditions
import DeviceGraph.Proofs.Text.Reading

/-!
# Conditions are read back

Every condition can be split off the front of a statement's text, whatever the
names in it hold: they stand in quotes that they cannot close. Parameter names
and variables end at a character that they never hold.
-/

set_option autoImplicit false

namespace DeviceGraph.Search

namespace Condition

structure PlainStep (step : Hop × String) : Prop where
  directed : step.1.direction ≠ .both
  closed : ')' ∉ step.2.toList
  undotted : '.' ∉ step.2.toList

def Plain : Condition → Prop
  | types ts => ts ≠ []
  | below => True
  | filter slot _ _ path =>
    '\n' ∉ slot.toList ∧ ' ' ∉ slot.toList ∧ ∀ step ∈ path, PlainStep step

theorem nameChars_append_inj {name other : String} {r t : List Char}
    (hr : r.head? ≠ some '\x60') (ht : t.head? ≠ some '\x60')
    (h : nameChars name ++ r = nameChars other ++ t) : name = other ∧ r = t := by
  obtain ⟨hname, hrest⟩ := Identifier.quote_append_inj hr ht h
  exact ⟨String.toList_inj.mp hname, hrest⟩

theorem comparison_inj {op other : Operator} (h : op.comparison = other.comparison) :
    op = other := by
  have hall : ∀ op ∈ Operator.all, ∀ other ∈ Operator.all,
      op.comparison = other.comparison → op = other := by decide
  exact hall op op.mem_all other other.mem_all h

theorem comparison_plain (op : Operator) : '$' ∉ op.comparison.toList ++ [' '] := by
  cases op <;> decide

/-- A comparison is read back up to a mark that its parameter name does not hold. -/
theorem compareChars_append_inj {mark : Char} {var field slot var' field' slot' : String}
    {op op' : Operator} {r t : List Char} (hv : '.' ∉ var.toList) (hv' : '.' ∉ var'.toList)
    (hs : mark ∉ slot.toList) (hs' : mark ∉ slot'.toList)
    (h : compareChars var field op slot ++ mark :: r =
      compareChars var' field' op' slot' ++ mark :: t) :
    var = var' ∧ field = field' ∧ op = op' ∧ slot = slot' ∧ r = t := by
  have hsplit : ∀ (var field : String) (op : Operator) (slot : String) (r : List Char),
      compareChars var field op slot ++ mark :: r = var.toList ++ '.' :: (nameChars field ++
        ' ' :: ((op.comparison.toList ++ [' ']) ++ '$' :: (slot.toList ++ mark :: r))) := by
    intro var field op slot r
    simp [compareChars]
  rw [hsplit, hsplit] at h
  obtain ⟨hvar, h⟩ := Text.append_mark_inj hv hv' h
  obtain ⟨hfield, h⟩ := nameChars_append_inj (by simp) (by simp) h
  obtain ⟨hop, h⟩ := Text.append_mark_inj (comparison_plain op) (comparison_plain op')
    (List.cons.inj h).2
  obtain ⟨hslot, h⟩ := Text.append_mark_inj hs hs' h
  exact ⟨String.toList_inj.mp hvar, hfield,
    comparison_inj (String.toList_inj.mp (List.append_cancel_right hop)),
    String.toList_inj.mp hslot, h⟩

def marks : Direction → String × String
  | .incoming => ("<-[:", "]-(")
  | _ => ("-[:", "]->(")

theorem stepChars_append (step : Hop × String) (r : List Char) :
    stepChars step ++ r = (marks step.1.direction).1.toList ++ (nameChars step.1.relation ++
      ((marks step.1.direction).2.toList ++ (step.2.toList ++ ')' :: r))) := by
  cases hd : step.1.direction <;> simp [stepChars, marks, hd]

theorem direction_of_marks {d d' : Direction} {r t : List Char} (hd : d ≠ .both)
    (hd' : d' ≠ .both) (h : (marks d).1.toList ++ r = (marks d').1.toList ++ t) : d = d' := by
  cases d <;> cases d' <;> simp_all [marks]

theorem stepChars_append_inj {step step' : Hop × String} {r t : List Char}
    (hs : PlainStep step) (hs' : PlainStep step')
    (h : stepChars step ++ r = stepChars step' ++ t) : step = step' ∧ r = t := by
  obtain ⟨⟨relation, direction⟩, var⟩ := step
  obtain ⟨⟨relation', direction'⟩, var'⟩ := step'
  rw [stepChars_append, stepChars_append] at h
  have hd : direction = direction' := direction_of_marks hs.directed hs'.directed h
  subst hd
  have hclosing : ∀ var : List Char, ((marks direction).2.toList ++ var).head? ≠ some '\x60' := by
    intro var
    cases direction <;> simp [marks]
  obtain ⟨hrelation, h⟩ := nameChars_append_inj (hclosing _) (hclosing _)
    (List.append_cancel_left h)
  obtain ⟨hvar, h⟩ := Text.append_mark_inj hs.closed hs'.closed (List.append_cancel_left h)
  have hv : var = var' := String.toList_inj.mp hvar
  have hr : relation = relation' := hrelation
  exact ⟨by rw [hv, hr], h⟩

theorem stepChars_ne (step : Hop × String) (r : List Char) :
    (stepChars step ++ r).head? ≠ some ' ' := by
  rw [stepChars_append]
  cases step.1.direction <;> simp [marks]

/-- Steps are read back up to the blank that follows the path. -/
theorem path_append_inj {path path' : List (Hop × String)} {r t : List Char}
    (hp : ∀ step ∈ path, PlainStep step) (hp' : ∀ step ∈ path', PlainStep step)
    (h : path.flatMap stepChars ++ ' ' :: r = path'.flatMap stepChars ++ ' ' :: t) :
    path = path' ∧ r = t := by
  obtain ⟨hpath, hrest⟩ := Text.flatMap_append_inj (N := fun _ => True)
    (E := fun rest => rest.head? = some ' ')
    (fun ha hb _ _ => stepChars_append_inj ha hb) (fun _ _ => trivial) (fun _ => trivial)
    stepChars_ne hp hp' rfl rfl h
  exact ⟨hpath, (List.cons.inj hrest).2⟩

theorem types_append_inj {ts ts' : List String} {r t : List Char} (hts : ts ≠ []) (hts' : ts' ≠ [])
    (h : " OR ".toList.intercalate (ts.map typeChars) ++ ')' :: r =
      " OR ".toList.intercalate (ts'.map typeChars) ++ ')' :: t) : ts = ts' ∧ r = t := by
  have hseparated := congrArg (" OR ".toList ++ ·) h
  simp only [← List.append_assoc, Text.append_intercalate _ (mt List.map_eq_nil_iff.mp hts),
    Text.append_intercalate _ (mt List.map_eq_nil_iff.mp hts'), List.flatMap_map] at hseparated
  obtain ⟨hpath, hrest⟩ := Text.flatMap_append_inj (P := fun _ => True)
    (N := fun rest => rest.head? ≠ some '\x60') (E := fun rest => rest.head? = some ')')
    (fun _ _ hr ht he => nameChars_append_inj hr ht (by simpa [typeChars] using he))
    (by simp) (by simp +contextual) (by simp) (fun _ _ => trivial) (fun _ _ => trivial)
    rfl rfl hseparated
  exact ⟨hpath, (List.cons.inj hrest).2⟩

theorem chars_filter_of_last (slot : String) (op : Operator) (field : String)
    {path : List (Hop × String)} {last : Hop × String} (h : path.getLast? = some last) :
    (filter slot op field path).chars = pathStart.toList ++ path.flatMap stepChars ++
      " WHERE ".toList ++ compareChars last.2 field op slot ++ " \x7d".toList := by
  simp only [chars, h]

theorem chars_filter_nil (slot : String) (op : Operator) (field : String) :
    (filter slot op field []).chars = compareChars "n" field op slot := rfl

/-- The condition on the group above names any number of steps, which no path of hops does. -/
theorem below_ne_path {path : List (Hop × String)} (hp : path ≠ []) (r t : List Char) :
    "-[*1..]->(a:".toList ++ r ≠ path.flatMap stepChars ++ t := by
  obtain ⟨step, rest, rfl⟩ := List.exists_cons_of_ne_nil hp
  intro h
  rw [List.flatMap_cons, List.append_assoc, stepChars_append] at h
  cases hd : step.1.direction <;> simp [marks, hd] at h

def initial : Condition → Char
  | types _ => '('
  | below => 'E'
  | filter _ _ _ path => if path = [] then 'n' else 'E'

theorem head?_chars (c : Condition) (r : List Char) : (c.chars ++ r).head? = some c.initial := by
  cases c with
  | types ts => rfl
  | below => simp [chars, pathStart, initial]
  | filter slot op field path =>
    cases hl : path.getLast? with
    | none =>
      rw [List.getLast?_eq_none_iff.mp hl, chars_filter_nil]
      simp [compareChars, initial]
    | some last =>
      have hne : path ≠ [] := by
        rintro rfl
        cases hl
      simp [chars_filter_of_last slot op field hl, pathStart, initial, hne]

theorem filter_append_inj {slot slot' field field' : String} {op op' : Operator}
    {path path' : List (Hop × String)} (hc : (filter slot op field path).Plain)
    (hd : (filter slot' op' field' path').Plain) {r t : List Char}
    (h : (filter slot op field path).chars ++ '\n' :: r =
      (filter slot' op' field' path').chars ++ '\n' :: t) :
    filter slot op field path = filter slot' op' field' path' ∧ r = t := by
  obtain ⟨hline, hblank, hsteps⟩ := hc
  obtain ⟨hline', hblank', hsteps'⟩ := hd
  have hinitial := congrArg List.head? h
  rw [head?_chars, head?_chars, Option.some.injEq] at hinitial
  cases hl : path.getLast? with
  | none =>
    have hp := List.getLast?_eq_none_iff.mp hl
    have hp' : path' = [] := by
      by_contra hne
      simp [initial, hp, hne] at hinitial
    subst hp hp'
    rw [chars_filter_nil, chars_filter_nil] at h
    obtain ⟨_, rfl, rfl, rfl, rfl⟩ :=
      compareChars_append_inj (by decide) (by decide) hline hline' h
    exact ⟨rfl, rfl⟩
  | some last =>
    have hp : path ≠ [] := by
      rintro rfl
      cases hl
    have hp' : path' ≠ [] := by
      rintro rfl
      simp [initial, hp] at hinitial
    have hl' := List.getLast?_eq_some_getLast hp'
    rw [chars_filter_of_last _ _ _ hl, chars_filter_of_last _ _ _ hl'] at h
    simp only [List.append_assoc, show " WHERE ".toList = ' ' :: "WHERE ".toList from rfl,
      show " \x7d".toList = ' ' :: "\x7d".toList from rfl, List.cons_append] at h
    obtain ⟨rfl, h⟩ := path_append_inj hsteps hsteps' (List.append_cancel_left h)
    have hlast := hsteps last (List.mem_of_getLast? hl)
    have hlast' := hsteps _ (List.mem_of_getLast? hl')
    replace h := List.append_cancel_left h
    obtain ⟨_, rfl, rfl, rfl, hrest⟩ := compareChars_append_inj hlast.undotted hlast'.undotted
      hblank hblank' h
    exact ⟨rfl, (List.cons.inj (List.append_cancel_left hrest)).2⟩

/-- Any condition is read back up to the line break that follows it. -/
theorem chars_append_inj {c d : Condition} (hc : c.Plain) (hd : d.Plain) {r t : List Char}
    (h : c.chars ++ '\n' :: r = d.chars ++ '\n' :: t) : c = d ∧ r = t := by
  have hinitial := congrArg List.head? h
  rw [head?_chars, head?_chars, Option.some.injEq] at hinitial
  cases c with
  | types ts =>
    cases d with
    | types ts' =>
      simp only [chars, List.cons_append, List.append_assoc, List.nil_append] at h
      obtain ⟨rfl, hrest⟩ := types_append_inj hc hd (List.cons.inj h).2
      exact ⟨rfl, (List.cons.inj hrest).2⟩
    | below => simp [initial] at hinitial
    | filter slot op field path => by_cases hp : path = [] <;> simp [initial, hp] at hinitial
  | below =>
    cases d with
    | types ts => simp [initial] at hinitial
    | below => exact ⟨rfl, (List.cons.inj (List.append_cancel_left h)).2⟩
    | filter slot op field path =>
      have hp : path ≠ [] := by
        rintro rfl
        simp [initial] at hinitial
      rw [chars_filter_of_last _ _ _ (List.getLast?_eq_some_getLast hp)] at h
      simp only [chars, List.append_assoc] at h
      exact absurd (List.append_cancel_left h) (below_ne_path hp _ _)
  | filter slot op field path =>
    cases d with
    | types ts => by_cases hp : path = [] <;> simp [initial, hp] at hinitial
    | below =>
      have hp : path ≠ [] := by
        rintro rfl
        simp [initial] at hinitial
      rw [chars_filter_of_last _ _ _ (List.getLast?_eq_some_getLast hp)] at h
      simp only [chars, List.append_assoc] at h
      exact absurd (List.append_cancel_left h).symm (below_ne_path hp _ _)
    | filter slot' op' field' path' => exact filter_append_inj hc hd h

/-- The conditions are read back up to the line that says what is returned. -/
theorem charsOfAll_append_inj {cs ds : List Condition} (hcs : ∀ c ∈ cs, c.Plain)
    (hds : ∀ d ∈ ds, d.Plain) (hc : cs ≠ []) (hd : ds ≠ []) {r t : List Char}
    (hr : r.head? ≠ some ' ') (ht : t.head? ≠ some ' ')
    (h : charsOfAll cs ++ '\n' :: r = charsOfAll ds ++ '\n' :: t) : cs = ds ∧ r = t := by
  have hseparated := congrArg ("\n  AND ".toList ++ ·) h
  simp only [charsOfAll, ← List.append_assoc, List.flatMap_map,
    Text.append_intercalate _ (mt List.map_eq_nil_iff.mp hc),
    Text.append_intercalate _ (mt List.map_eq_nil_iff.mp hd)] at hseparated
  obtain ⟨hall, hrest⟩ := Text.flatMap_append_inj (P := Plain)
    (N := fun rest => ∃ after, rest = '\n' :: after)
    (E := fun rest => ∃ after, rest = '\n' :: after ∧ after.head? ≠ some ' ')
    (by
      rintro c d _ _ hc hd ⟨r, rfl⟩ ⟨t, rfl⟩ he
      simp only [List.append_assoc] at he
      obtain ⟨rfl, rfl⟩ := chars_append_inj hc hd (List.append_cancel_left he)
      exact ⟨rfl, rfl⟩)
    (fun c r => ⟨_, rfl⟩) (fun ⟨after, he, _⟩ => ⟨after, he⟩)
    (by
      rintro c r ⟨after, he, hblank⟩
      rw [← (List.cons.inj he).2] at hblank
      exact hblank rfl)
    hcs hds ⟨r, rfl, hr⟩ ⟨t, rfl, ht⟩ hseparated
  exact ⟨hall, (List.cons.inj hrest).2⟩

end Condition

end DeviceGraph.Search
