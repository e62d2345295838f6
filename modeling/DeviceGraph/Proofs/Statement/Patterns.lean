import DeviceGraph.Proofs.Statement.Text
import DeviceGraph.Statement.Entity

/-!
# Patterns are determined by their text

A name in a pattern is read back from its quotes, since what stands behind it is never a
backtick. So the text of a pattern tells the direction, the relation and the label that it
was made for, however these are spelled and whatever its variables are.
-/

set_option autoImplicit false

namespace DeviceGraph.Statement
open Piece Checks

def labelChars : Option String → List Char
  | none => []
  | some label => ':' :: Identifier.quote label.toList

theorem labelled_eq_ok_iff (var label : String) (pieces : List Piece) :
    labelled var (some label) = .ok pieces ↔
      ∃ i : Identifier, i.name = label ∧ [.text (var ++ ":"), .name i] = pieces := by
  rw [labelled, bind_eq_ok_iff]
  simp only [Identifier.of_eq_ok_iff, pure_eq_ok_iff]

theorem charsOf_labelled {var : String} {label : Option String} {pieces : List Piece}
    (h : labelled var label = .ok pieces) : charsOf pieces = var.toList ++ labelChars label := by
  cases label with
  | none =>
    cases h
    simp [chars, labelChars]
  | some label =>
    obtain ⟨i, rfl, rfl⟩ := (labelled_eq_ok_iff var label pieces).mp h
    simp [chars, labelChars]

theorem exists_labelled_iff (var : String) (label : Option String) :
    (∃ pieces, labelled var label = .ok pieces) ↔ label ≠ some "" := by
  cases label with
  | none =>
    constructor
    · intro _ h
      cases h
    · exact fun _ => ⟨_, rfl⟩
  | some label =>
    rw [ne_eq, Option.some.injEq]
    constructor
    · rintro ⟨pieces, h⟩
      obtain ⟨i, rfl, _⟩ := (labelled_eq_ok_iff var label pieces).mp h
      exact i.nonempty
    · exact fun h => ⟨_, (labelled_eq_ok_iff var label _).mpr ⟨⟨label, h⟩, rfl, rfl⟩⟩

variable {direction : Direction} {origin edge target : String} {relation label : Option String}

theorem edgePattern_eq_ok_iff (pieces : List Piece) :
    edgePattern direction origin edge relation target label = .ok pieces ↔
      ∃ edgePieces targetPieces, labelled edge relation = .ok edgePieces ∧
        labelled target label = .ok targetPieces ∧
        .text ("(" ++ origin ++ ")" ++ (arrow direction).1) :: edgePieces ++
          .text (arrow direction).2 :: targetPieces ++ [.text ")"] = pieces := by
  rw [edgePattern, bind_eq_ok_iff]
  simp only [bind_eq_ok_iff, pure_eq_ok_iff]
  constructor
  · rintro ⟨edgePieces, hedge, targetPieces, htarget, h⟩
    exact ⟨edgePieces, targetPieces, hedge, htarget, h⟩
  · rintro ⟨edgePieces, targetPieces, hedge, htarget, h⟩
    exact ⟨edgePieces, hedge, targetPieces, htarget, h⟩

theorem exists_edgePattern_iff :
    (∃ pieces, edgePattern direction origin edge relation target label = .ok pieces) ↔
      relation ≠ some "" ∧ label ≠ some "" := by
  simp only [edgePattern_eq_ok_iff]
  rw [← exists_labelled_iff edge, ← exists_labelled_iff target]
  constructor
  · rintro ⟨_, edgePieces, targetPieces, hedge, htarget, _⟩
    exact ⟨⟨edgePieces, hedge⟩, targetPieces, htarget⟩
  · rintro ⟨⟨edgePieces, hedge⟩, targetPieces, htarget⟩
    exact ⟨_, edgePieces, targetPieces, hedge, htarget, rfl⟩

theorem charsOf_edgePattern {pieces : List Piece}
    (h : edgePattern direction origin edge relation target label = .ok pieces) :
    charsOf pieces = '(' :: origin.toList ++ ')' :: ((arrow direction).1.toList ++ (edge.toList ++
      (labelChars relation ++ ((arrow direction).2.toList ++ (target.toList ++
        (labelChars label ++ [')'])))))) := by
  obtain ⟨edgePieces, targetPieces, hedge, htarget, rfl⟩ := (edgePattern_eq_ok_iff pieces).mp h
  simp [chars, charsOf_labelled hedge, charsOf_labelled htarget]

def EndsLabel (rest : List Char) : Prop := rest.head? ≠ some ':' ∧ rest.head? ≠ some '\x60'

theorem labelChars_append_inj {first second : Option String} {rest tail : List Char}
    (hr : EndsLabel rest) (ht : EndsLabel tail)
    (h : labelChars first ++ rest = labelChars second ++ tail) : first = second ∧ rest = tail := by
  cases first with
  | none =>
    cases second with
    | none => exact ⟨rfl, h⟩
    | some label => exact absurd (congrArg List.head? h) hr.1
  | some label =>
    cases second with
    | none => exact absurd (congrArg List.head? h.symm) ht.1
    | some other =>
      obtain ⟨hname, hrest⟩ := Identifier.quote_append_inj hr.2 ht.2 (List.cons.inj h).2
      exact ⟨congrArg some (String.toList_inj.mp hname), hrest⟩

theorem endsLabel_arrow (direction : Direction) (rest : List Char) :
    EndsLabel ((arrow direction).2.toList ++ rest) := by
  cases direction <;> simp [EndsLabel, arrow]

/-- No two arrows have fronts of which one begins the other. -/
theorem arrow_front_inj {first second : Direction} {rest tail : List Char}
    (h : (arrow first).1.toList ++ rest = (arrow second).1.toList ++ tail) :
    (arrow first).1 = (arrow second).1 ∧ rest = tail := by
  cases first <;> cases second <;> simp_all [arrow]

theorem arrow_back_inj {first second : Direction} {rest tail : List Char}
    (h : (arrow first).2.toList ++ rest = (arrow second).2.toList ++ tail) :
    (arrow first).2 = (arrow second).2 ∧ rest = tail := by
  cases first <;> cases second <;> simp_all [arrow]

theorem arrow_inj {first second : Direction} (hfront : (arrow first).1 = (arrow second).1)
    (hback : (arrow first).2 = (arrow second).2) : first = second := by
  cases first <;> cases second <;> simp_all [arrow]

theorem edgePattern_inj {direction' : Direction} {relation' label' : Option String}
    {pieces pieces' : List Piece}
    (h : edgePattern direction origin edge relation target label = .ok pieces)
    (h' : edgePattern direction' origin edge relation' target label' = .ok pieces')
    (htext : renderPieces pieces = renderPieces pieces') :
    direction = direction' ∧ relation = relation' ∧ label = label' := by
  have hchars := congrArg String.toList htext
  rw [toList_renderPieces, toList_renderPieces, charsOf_edgePattern h, charsOf_edgePattern h',
    List.cons_append, List.cons_append, List.cons.injEq, List.append_cancel_left_eq,
    List.cons.injEq] at hchars
  obtain ⟨hfront, hedge⟩ := arrow_front_inj hchars.2.2
  obtain ⟨hrelation, hafter⟩ := labelChars_append_inj (endsLabel_arrow _ _) (endsLabel_arrow _ _)
    (List.append_cancel_left hedge)
  obtain ⟨hback, htarget⟩ := arrow_back_inj hafter
  obtain ⟨hlabel, _⟩ := labelChars_append_inj (by simp [EndsLabel]) (by simp [EndsLabel])
    (List.append_cancel_left htarget)
  exact ⟨arrow_inj hfront hback, hrelation, hlabel⟩

/-- A quoted name is read back, and what follows it is left. So quoting loses nothing, and a
pattern can be made of all names but the empty one and is determined by its text. -/
theorem names_stay_quoted :
    (∀ (name : String) (rest : List Char), name ≠ "" → rest.head? ≠ some '\x60' →
      ∃ i, Identifier.of name = .ok i ∧
        Identifier.quotedName? (i.quoted.toList ++ rest) = some (name.toList, rest)) ∧
    (∀ (name name' : String) (i i' : Identifier), Identifier.of name = .ok i →
      Identifier.of name' = .ok i' → (i.quoted = i'.quoted ↔ name = name')) ∧
    ∀ (origin edge target : String) (direction direction' : Direction)
      (relation relation' label label' : Option String),
      ((∃ pieces, edgePattern direction origin edge relation target label = .ok pieces) ↔
        relation ≠ some "" ∧ label ≠ some "") ∧
      ∀ pieces pieces', edgePattern direction origin edge relation target label = .ok pieces →
        edgePattern direction' origin edge relation' target label' = .ok pieces' →
        (renderPieces pieces = renderPieces pieces' ↔
          direction = direction' ∧ relation = relation' ∧ label = label') := by
  constructor
  · intro name rest hname hrest
    refine ⟨⟨name, hname⟩, Identifier.of_ne_empty hname, ?_⟩
    rw [Identifier.toList_quoted, Identifier.quotedName?_eq_some_iff]
    exact ⟨rfl, hrest⟩
  constructor
  · intro name name' i i' hi hi'
    obtain rfl := (Identifier.of_eq_ok_iff name i).mp hi
    obtain rfl := (Identifier.of_eq_ok_iff name' i').mp hi'
    constructor
    · exact Identifier.quoted_inj
    · intro h
      rw [Identifier.quoted, h, Identifier.quoted]
  · intro origin edge target direction direction' relation relation' label label'
    constructor
    · exact exists_edgePattern_iff
    · intro pieces pieces' h h'
      constructor
      · exact edgePattern_inj h h'
      · rintro ⟨rfl, rfl, rfl⟩
        rw [Except.ok.inj (h.symm.trans h')]

/-- A relation that spells a label after its own end makes another pattern than the label. -/
theorem names_stay_quoted_ticks :
    ("\x60a\x60\x60" ≠ "" ∧ "]->(n)".toList.head? ≠ some '\x60' ∧
      ∃ i, Identifier.of "\x60a\x60\x60" = .ok i ∧
        Identifier.quotedName? (i.quoted.toList ++ "]->(n)".toList) =
          some ("\x60a\x60\x60".toList, "]->(n)".toList)) ∧
    (∃ i i', Identifier.of "\x60" = .ok i ∧ Identifier.of "\x60\x60" = .ok i' ∧
      i.quoted ≠ i'.quoted) ∧
    ∃ pieces pieces',
      edgePattern .outgoing "root" "e" (some "a\x60]->(n:\x60b") "n" none = .ok pieces ∧
      edgePattern .outgoing "root" "e" (some "a") "n" (some "b") = .ok pieces' ∧
      renderPieces pieces ≠ renderPieces pieces' := by
  obtain ⟨hread, hnames, hpatterns⟩ := names_stay_quoted
  refine ⟨⟨by decide, by decide, hread _ _ (by decide) (by decide)⟩, ?_, ?_⟩
  · refine ⟨⟨"\x60", by decide⟩, ⟨"\x60\x60", by decide⟩, rfl, rfl, ?_⟩
    rw [ne_eq, hnames "\x60" "\x60\x60" _ _ rfl rfl]
    decide
  · obtain ⟨hmade, htext⟩ := hpatterns "root" "e" "n" .outgoing .outgoing
      (some "a\x60]->(n:\x60b") (some "a") none (some "b")
    obtain ⟨pieces, h⟩ := hmade.mpr (by decide)
    obtain ⟨hmade', _⟩ :=
      hpatterns "root" "e" "n" .outgoing .outgoing (some "a") none (some "b") none
    obtain ⟨pieces', h'⟩ := hmade'.mpr (by decide)
    refine ⟨pieces, pieces', h, h', ?_⟩
    rw [ne_eq, htext pieces pieces' h h']
    decide

end DeviceGraph.Statement
