import DeviceGraph.Proofs.Checks
import DeviceGraph.Statement.Identifier

/-!
# Quoted names are read back

Inside its quotes a doubled backtick stands for one, and a single backtick ends
the name. So a name cannot end its own quotes whatever it holds, and a quoted
name can be split off the front of any text that does not go on with a backtick;
nothing else is read as a quoted name. Every name but the empty one has an
identifier.
-/

set_option autoImplicit false

namespace DeviceGraph.Identifier

def quote (name : List Char) : List Char := '\x60' :: escape name ++ ['\x60']

theorem quote_append (name rest : List Char) :
    quote name ++ rest = '\x60' :: (escape name ++ '\x60' :: rest) := by
  simp [quote]

theorem toList_quoted (i : Identifier) : i.quoted.toList = quote i.name.toList := by
  rw [quoted, String.toList_ofList]
  rfl

theorem escape_cons_quote (name : List Char) :
    escape ('\x60' :: name) = '\x60' :: '\x60' :: escape name := rfl

theorem escape_cons_plain {c : Char} (h : c ≠ '\x60') (name : List Char) :
    escape (c :: name) = c :: escape name := by
  simp [escape, h]

/-! ## Reading up to the closing backtick -/

/-- Reads a name up to its closing backtick, of which there must be one, and gives what
follows it. -/
def closedName? : List Char → Option (List Char × List Char)
  | '\x60' :: '\x60' :: rest => (closedName? rest).map fun read => ('\x60' :: read.1, read.2)
  | '\x60' :: rest => some ([], rest)
  | c :: rest => (closedName? rest).map fun read => (c :: read.1, read.2)
  | [] => none

def quotedName? : List Char → Option (List Char × List Char)
  | '\x60' :: rest => closedName? rest
  | _ => none

theorem closedName?_closing {rest : List Char} (h : rest.head? ≠ some '\x60') :
    closedName? ('\x60' :: rest) = some ([], rest) := by
  cases rest with
  | nil => rfl
  | cons c rest =>
    have hc : c ≠ '\x60' := by simpa using h
    simp [closedName?, hc]

theorem closedName?_plain {c : Char} (h : c ≠ '\x60') (rest : List Char) :
    closedName? (c :: rest) = (closedName? rest).map fun read => (c :: read.1, read.2) := by
  simp [closedName?, h]

theorem closedName?_escape (name : List Char) {rest : List Char} (h : rest.head? ≠ some '\x60') :
    closedName? (escape name ++ '\x60' :: rest) = some (name, rest) := by
  induction name with
  | nil => exact closedName?_closing h
  | cons c name ih =>
    by_cases hc : c = '\x60'
    · rw [hc, escape_cons_quote, List.cons_append, List.cons_append, closedName?, ih]
      rfl
    · rw [escape_cons_plain hc, List.cons_append, closedName?_plain hc, ih]
      rfl

theorem eq_escape_of_closedName? {text name rest : List Char}
    (h : closedName? text = some (name, rest)) :
    text = escape name ++ '\x60' :: rest ∧ rest.head? ≠ some '\x60' := by
  fun_induction closedName? text generalizing name with
  | case1 tail ih =>
    obtain ⟨read, hread, heq⟩ := Option.map_eq_some_iff.mp h
    cases heq
    obtain ⟨htail, hrest⟩ := ih hread
    rw [escape_cons_quote, htail]
    exact ⟨rfl, hrest⟩
  | case2 tail hsingle =>
    cases h
    refine ⟨rfl, fun hhead => ?_⟩
    obtain ⟨more, hmore⟩ := List.head?_eq_some_iff.mp hhead
    exact hsingle more hmore
  | case3 c tail hdouble hc ih =>
    obtain ⟨read, hread, heq⟩ := Option.map_eq_some_iff.mp h
    cases heq
    obtain ⟨htail, hrest⟩ := ih hread
    rw [escape_cons_plain hc, htail]
    exact ⟨rfl, hrest⟩
  | case4 => cases h

/-- What is read as a quoted name is the quoted form of that name, and a single backtick ended
it. -/
theorem quotedName?_eq_some_iff (text name rest : List Char) :
    quotedName? text = some (name, rest) ↔
      text = quote name ++ rest ∧ rest.head? ≠ some '\x60' := by
  constructor
  · intro h
    unfold quotedName? at h
    split at h
    · obtain ⟨htail, hrest⟩ := eq_escape_of_closedName? h
      exact ⟨by simp [quote, htail], hrest⟩
    · cases h
  · rintro ⟨rfl, hrest⟩
    rw [quote_append, quotedName?, closedName?_escape name hrest]

theorem quote_append_inj {name other rest tail : List Char} (hr : rest.head? ≠ some '\x60')
    (ht : tail.head? ≠ some '\x60') (h : quote name ++ rest = quote other ++ tail) :
    name = other ∧ rest = tail := by
  have hread := (quotedName?_eq_some_iff _ name rest).mpr ⟨rfl, hr⟩
  rw [(quotedName?_eq_some_iff _ other tail).mpr ⟨h, ht⟩, Option.some.injEq,
    Prod.mk.injEq] at hread
  exact ⟨hread.1.symm, hread.2.symm⟩

theorem quoted_inj {i j : Identifier} (h : i.quoted = j.quoted) : i.name = j.name := by
  have hchars : quote i.name.toList ++ [] = quote j.name.toList ++ [] := by
    rw [← toList_quoted, h, toList_quoted]
  exact String.toList_inj.mp (quote_append_inj (by simp) (by simp) hchars).1

/-! ## Reading without a check -/

/-- Reads a name up to its closing backtick, or all of a text that has none. -/
def readName (text : List Char) : List Char × List Char := (closedName? text).getD (text, [])

theorem readName_escape (name : List Char) {rest : List Char} (h : rest.head? ≠ some '\x60') :
    readName (escape name ++ '\x60' :: rest) = (name, rest) := by
  rw [readName, closedName?_escape name h, Option.getD_some]

theorem length_readName_le (text : List Char) : (readName text).2.length ≤ text.length := by
  rw [readName]
  cases h : closedName? text with
  | none => exact Nat.zero_le _
  | some read =>
    obtain ⟨name, rest⟩ := read
    rw [(eq_escape_of_closedName? h).1, Option.getD_some, List.length_append]
    exact Nat.le_trans (Nat.le_succ _) (Nat.le_add_left _ _)

/-! ## Identifiers of names -/

theorem of_ne_empty {name : String} (h : name ≠ "") : of name = .ok ⟨name, h⟩ := by
  rw [of, dif_neg h]

theorem of_eq_ok_iff (name : String) (i : Identifier) : of name = .ok i ↔ i.name = name := by
  by_cases h : name = ""
  · have hne : i.name ≠ name := fun he => i.nonempty (he.trans h)
    simp [of, h, i.nonempty]
  · rw [of_ne_empty h, Except.ok.injEq]
    constructor
    · rintro rfl
      rfl
    · rintro rfl
      rfl

theorem mapM_of_eq_ok_iff (names : List String) (is : List Identifier) :
    names.mapM of = .ok is ↔ is.map (·.name) = names := by
  induction names generalizing is with
  | nil => rw [List.mapM_nil, Checks.pure_eq_ok_iff, List.map_eq_nil_iff, eq_comm]
  | cons name names ih =>
    rw [List.mapM_cons, Checks.bind_eq_ok_iff]
    constructor
    · rintro ⟨i, hi, h⟩
      obtain ⟨rest, hrest, heq⟩ := (Checks.bind_eq_ok_iff _ _ _).mp h
      rw [Checks.pure_eq_ok_iff] at heq
      subst heq
      rw [List.map_cons, (of_eq_ok_iff name i).mp hi, (ih rest).mp hrest]
    · intro h
      obtain ⟨i, rest, rfl, hi, hrest⟩ := List.map_eq_cons_iff.mp h
      refine ⟨i, (of_eq_ok_iff name i).mpr hi, ?_⟩
      rw [(ih rest).mpr hrest]
      rfl

theorem exists_mapM_of {names : List String} (h : "" ∉ names) :
    ∃ is, names.mapM of = .ok is ∧ is.map (·.name) = names := by
  have hne : ∀ name ∈ names, name ≠ "" := fun name hm he => h (he ▸ hm)
  have hnames : (names.pmap Identifier.mk hne).map (·.name) = names := by
    simp [List.map_pmap]
  exact ⟨_, (mapM_of_eq_ok_iff _ _).mpr hnames, hnames⟩

end DeviceGraph.Identifier
