import DeviceGraph.Proofs.Statement.Closed

/-!
# The tokens of a statement

A quoted name is one token whatever it holds, and so is the name of a parameter; every other
character is a token of its own. What stands inside a name is therefore no line break and no
keyword, and a text whose pieces keep apart is read back line by line.
-/

set_option autoImplicit false

namespace DeviceGraph

inductive Token
  | char (c : Char)
  | name (name : String)
  | slot (parameter : String)
  deriving DecidableEq

namespace Statement

def tokens : List Char → List Token
  | [] => []
  | c :: rest =>
    if c = '\x60' then
      .name (String.ofList (Identifier.readName rest).1) :: tokens (Identifier.readName rest).2
    else if c = '$' then
      .slot (String.ofList (rest.takeWhile isWordChar)) :: tokens (rest.dropWhile isWordChar)
    else .char c :: tokens rest
termination_by cs => cs.length
decreasing_by
  · exact Nat.lt_succ_of_le (Identifier.length_readName_le rest)
  · exact Nat.lt_succ_of_le (List.dropWhile_suffix _).length_le
  · exact Nat.lt_succ_self _

theorem tokens_bare {text : String} (h : Bare text) (rest : List Char) :
    tokens (text.toList ++ rest) = text.toList.map .char ++ tokens rest := by
  unfold Bare at h
  generalize text.toList = cs at h
  induction cs with
  | nil => rfl
  | cons c cs ih =>
    obtain ⟨hquote, hdollar⟩ := h c List.mem_cons_self
    rw [List.cons_append, tokens, if_neg hquote, if_neg hdollar,
      ih fun d hd => h d (List.mem_cons_of_mem c hd)]
    rfl

theorem tokens_quote {name rest : List Char} (h : Ended rest) :
    tokens (Identifier.quote name ++ rest) = .name (String.ofList name) :: tokens rest := by
  have hrest : rest.head? ≠ some '\x60' := fun he => (h _ he).1 rfl
  rw [Identifier.quote_append, tokens, if_pos rfl, Identifier.readName_escape name hrest]

theorem tokens_slot {name : String} (hn : Word name) {rest : List Char} (h : Ended rest) :
    tokens ('$' :: name.toList ++ rest) = .slot name :: tokens rest := by
  have hhead : rest.takeWhile isWordChar = [] ∧ rest.dropWhile isWordChar = rest := by
    cases rest with
    | nil => exact ⟨rfl, rfl⟩
    | cons c rest =>
      have hc := (h c rfl).2
      simp [hc]
  rw [List.cons_append, tokens, if_neg (by decide), if_pos rfl, List.takeWhile_append_of_pos hn,
    List.dropWhile_append_of_pos hn, hhead.1, hhead.2, List.append_nil, String.ofList_toList]

end Statement

namespace Piece
open Statement

def tokens : Piece → List Token
  | .text t => t.toList.map .char
  | .name i => [.name i.name]
  | .slot p => [.slot p]

def tokensOf (pieces : List Piece) : List Token := pieces.flatMap tokens

theorem tokensOf_append (ps qs : List Piece) : tokensOf (ps ++ qs) = tokensOf ps ++ tokensOf qs :=
  List.flatMap_append

theorem tokens_charsOf {pieces : List Piece} (h : Apart pieces) {rest : List Char}
    (hr : Ended rest) :
    Statement.tokens (charsOf pieces ++ rest) = tokensOf pieces ++ Statement.tokens rest := by
  induction pieces with
  | nil => rfl
  | cons p pieces ih =>
    rw [charsOf_cons, List.append_assoc, tokensOf, List.flatMap_cons, List.append_assoc]
    cases p with
    | text t => rw [chars, tokens_bare h.1, ih h.2]; rfl
    | name i =>
      rw [chars, tokens_quote (h.1.append hr), ih h.2, String.ofList_toList]
      rfl
    | slot p =>
      rw [chars, tokens_slot h.1 (h.2.1.append hr), ih h.2.2]
      rfl

theorem tokensOf_joinPieces (separator : String) (pss : List (List Piece)) :
    tokensOf (joinPieces separator pss) =
      (separator.toList.map .char).intercalate (pss.map tokensOf) := by
  fun_induction joinPieces separator pss with
  | case1 => rfl
  | case2 ps => simp [List.intercalate_singleton]
  | case3 ps next rest ih =>
    rw [tokensOf_append, List.map_cons, List.map_cons, List.intercalate_cons_cons, ← List.map_cons,
      ← ih]
    simp [tokensOf, tokens]

def OneLine (pieces : List Piece) : Prop := .char '\n' ∉ tokensOf pieces

theorem oneLine_cons (p : Piece) (pieces : List Piece) :
    OneLine (p :: pieces) ↔ .char '\n' ∉ p.tokens ∧ OneLine pieces := by
  simp [OneLine, tokensOf]

theorem oneLine_joinPieces {separator : String} (hs : '\n' ∉ separator.toList)
    {pss : List (List Piece)} (h : ∀ ps ∈ pss, OneLine ps) :
    OneLine (joinPieces separator pss) := by
  fun_induction joinPieces separator pss with
  | case1 => exact List.not_mem_nil
  | case2 ps => exact h ps List.mem_cons_self
  | case3 ps next rest ih =>
    have hps : OneLine ps := h ps List.mem_cons_self
    have hrest := ih fun qs hqs => h qs (List.mem_cons_of_mem ps hqs)
    rw [OneLine] at hps hrest ⊢
    rw [tokensOf_append, tokensOf, tokensOf, List.flatMap_cons, List.mem_append, List.mem_append]
    rintro (hm | hm | hm)
    · exact hps hm
    · exact hs (by simpa [tokens] using hm)
    · exact hrest hm

end Piece

namespace Statement

/-- The lines of a text; a line break inside a quoted name does not end one. -/
def lines (text : String) : List (List Token) := (tokens text.toList).splitOn (.char '\n')

/-- Clauses without line breaks of their own are the lines of their statement. -/
theorem lines_text {s : Statement} (h : ∀ c ∈ s.clauses, c.Readable) (hne : s.clauses ≠ [])
    (hline : ∀ c ∈ s.clauses, Piece.OneLine c.pieces) :
    lines s.text = s.clauses.map fun c => Piece.tokensOf c.pieces := by
  have hread := Piece.tokens_charsOf (apart_clauses h) ended_nil
  rw [List.append_nil, tokens, List.append_nil] at hread
  rw [lines, toList_text h, hread, Piece.tokensOf_joinPieces, List.map_map]
  refine List.splitOn_intercalate _ ?_ (by simpa using hne)
  simpa [Piece.OneLine] using hline

end Statement

end DeviceGraph
