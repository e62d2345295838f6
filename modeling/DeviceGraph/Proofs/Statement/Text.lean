import DeviceGraph.Proofs.Statement.Identifier
import DeviceGraph.Proofs.Text.Pieces
import DeviceGraph.Statement.Basic

/-!
# The characters of a statement

Pieces are written one after the other, and clauses a line each: the text is the texts
of all clauses with line breaks between them. All proofs about texts work on these
characters.
-/

set_option autoImplicit false

namespace DeviceGraph

namespace Piece

def chars : Piece → List Char
  | .text t => t.toList
  | .name i => Identifier.quote i.name.toList
  | .slot p => '$' :: p.toList

theorem toList_render (p : Piece) : p.render.toList = p.chars := by
  cases p with
  | text t => rfl
  | name i => exact i.toList_quoted
  | slot p => simp [render, chars]

def charsOf (pieces : List Piece) : List Char := pieces.flatMap chars

@[simp] theorem charsOf_nil : charsOf [] = [] := rfl

@[simp] theorem charsOf_cons (p : Piece) (pieces : List Piece) :
    charsOf (p :: pieces) = p.chars ++ charsOf pieces := rfl

@[simp] theorem charsOf_append (ps qs : List Piece) :
    charsOf (ps ++ qs) = charsOf ps ++ charsOf qs := List.flatMap_append

theorem toList_foldl_append (texts : List String) (line : String) :
    (texts.foldl (· ++ ·) line).toList = line.toList ++ texts.flatMap String.toList := by
  induction texts generalizing line with
  | nil => simp
  | cons t texts ih => simp [ih]

theorem toList_renderPieces (pieces : List Piece) :
    (renderPieces pieces).toList = charsOf pieces := by
  rw [renderPieces, toList_foldl_append, List.flatMap_map, charsOf]
  simp only [toList_render]
  rfl

theorem charsOf_joinPieces (separator : String) (pieces : List (List Piece)) :
    charsOf (joinPieces separator pieces) = separator.toList.intercalate (pieces.map charsOf) := by
  fun_induction joinPieces separator pieces with
  | case1 => rfl
  | case2 ps => simp [List.intercalate_singleton]
  | case3 ps next rest ih =>
    rw [charsOf_append, charsOf_cons, ih]
    simp only [List.map_cons, List.intercalate_cons_cons, chars, List.append_assoc]

end Piece

namespace Statement

theorem toList_clause (c : Clause) : c.text.toList = Piece.charsOf c.pieces :=
  Piece.toList_renderPieces c.pieces

theorem foldl_lines (cs : List Clause) {line : String} (h : line ≠ "") :
    cs.foldl (fun line c => if line = "" then c.text else line ++ "\n" ++ c.text) line =
      Text.join "\n" (line :: cs.map Clause.text) := by
  induction cs generalizing line with
  | nil => rfl
  | cons c cs ih =>
    have hnext : line ++ "\n" ++ c.text ≠ "" := by simp [h]
    rw [List.foldl_cons, if_neg h, ih hnext, List.map_cons]
    cases cs with
    | nil => rfl
    | cons d cs => simp [Text.join, String.append_assoc]

/-- Each clause is one part of the text, and between neighbours stands a line break. -/
theorem text_eq_join {s : Statement} (h : ∀ c ∈ s.clauses, c.text ≠ "") :
    s.text = Text.join "\n" (s.clauses.map Clause.text) := by
  rw [text]
  cases hc : s.clauses with
  | nil => rfl
  | cons c cs =>
    rw [List.foldl_cons, if_pos rfl, foldl_lines cs (h c (hc ▸ List.mem_cons_self)), List.map_cons]

theorem text_bind (s : Statement) (name : String) (value : Json) :
    (s.bind name value).text = s.text := rfl

theorem push_bind (s : Statement) (name : String) (value : Json) (c : Clause) :
    (s.bind name value).push c = (s.push c).bind name value := rfl

theorem text_push (s : Statement) (c : Clause) :
    (s.push c).text = if s.text = "" then c.text else s.text ++ "\n" ++ c.text := by
  rw [text, push, List.foldl_append]
  rfl

theorem toList_text_push_first {s : Statement} (h : s.clauses = []) (c : Clause) :
    (s.push c).text.toList = Piece.charsOf c.pieces := by
  have htext : s.text = "" := by rw [text, h, List.foldl_nil]
  rw [text_push, if_pos htext, toList_clause]

/-- A line break stands in front of every clause but the first. -/
theorem toList_text_push {s : Statement} (h : s.text ≠ "") (c : Clause) :
    (s.push c).text.toList = s.text.toList ++ '\n' :: Piece.charsOf c.pieces := by
  rw [text_push, if_neg h]
  simp [toList_clause]

theorem text_push_ne_empty {s : Statement} (h : s.text ≠ "") (c : Clause) :
    (s.push c).text ≠ "" := by
  intro he
  have hl := congrArg String.toList he
  rw [toList_text_push h] at hl
  simp at hl

end Statement

end DeviceGraph
