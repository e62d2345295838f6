import DeviceGraph.Proofs.Search.Parameters
import DeviceGraph.Proofs.Text.Percent
import Mathlib.Data.List.Basic

/-!
# The pieces of a query string

A query string is cut into pieces, and each piece into a name and a coded value.
A piece stands for a parameter when its codes stand for a text. A query string
is read exactly when all pieces stand for readable parameters and the draft that
these leave is complete.
-/

set_option autoImplicit false

namespace DeviceGraph.Search
open Checks

def pieceName (piece : List Char) : String := String.ofList (Text.cutFirst '=' piece).1

/-- The coded value of a piece; without an equals sign it is empty. -/
def pieceCode (piece : List Char) : String :=
  String.ofList ((Text.cutFirst '=' piece).2.getD [])

/-- The parameter that a piece stands for, its value cut at commas after it was decoded. -/
def parameter? (piece : List Char) : Option (String × List String) :=
  (Text.Percent.decode (pieceCode piece)).toOption.map fun text =>
    (pieceName piece, Text.split ',' text)

theorem parameter?_of_error {piece : List Char} {fault : Text.Utf8.Fault}
    (h : Text.Percent.decode (pieceCode piece) = .error fault) : parameter? piece = none := by
  rw [parameter?, h]
  rfl

theorem parameter?_of_ok {piece : List Char} {text : String}
    (h : Text.Percent.decode (pieceCode piece) = .ok text) :
    parameter? piece = some (pieceName piece, Text.split ',' text) := by
  rw [parameter?, h]
  rfl

theorem parameter?_eq_some_iff (piece : List Char) (p : String × List String) :
    parameter? piece = some p ↔
      ∃ text, Text.Percent.decode (pieceCode piece) = .ok text ∧
        p = (pieceName piece, Text.split ',' text) := by
  cases h : Text.Percent.decode (pieceCode piece) with
  | error fault => simp [parameter?_of_error h]
  | ok text => simp [parameter?_of_ok h, eq_comm]

/-- The parameters of a name are those of the pieces of that name. -/
theorem given_filterMap_parameter? (name : String) (pieces : List (List Char)) :
    given name (pieces.filterMap parameter?) =
      (pieces.filter (pieceName · = name)).filterMap fun piece => (parameter? piece).map (·.2) := by
  rw [given, List.filterMap_filterMap, List.filterMap_filter]
  congr 1
  funext piece
  cases h : parameter? piece with
  | none => simp
  | some p =>
    obtain ⟨text, _, rfl⟩ := (parameter?_eq_some_iff piece p).mp h
    by_cases hn : pieceName piece = name <;> simp [hn]

namespace Draft

theorem applyPiece_eq_ok_iff (d e : Draft) (piece : List Char) :
    d.applyPiece piece = .ok e ↔
      ∃ p, parameter? piece = some p ∧ Readable p ∧ e = d.after [p] := by
  have hpiece : d.applyPiece piece =
      ((Text.Percent.decode (pieceCode piece)).mapError (.undecodable (pieceName piece)) >>=
        fun text => d.apply (pieceName piece) (Text.split ',' text)) := rfl
  rw [hpiece, bind_eq_ok_iff]
  simp only [mapError_eq_ok_iff, parameter?_eq_some_iff]
  constructor
  · rintro ⟨text, ht, h⟩
    obtain ⟨hr, rfl⟩ := (apply_eq_ok_iff d e (pieceName piece, Text.split ',' text)).mp h
    exact ⟨_, ⟨text, ht, rfl⟩, hr, rfl⟩
  · rintro ⟨_, ⟨text, ht, rfl⟩, hr, rfl⟩
    exact ⟨text, ht, (apply_eq_ok_iff d _ (pieceName piece, Text.split ',' text)).mpr ⟨hr, rfl⟩⟩

/-- A run over pieces succeeds exactly when all of them stand for readable parameters. -/
theorem foldlM_applyPiece_eq_ok_iff (pieces : List (List Char)) (d e : Draft) :
    pieces.foldlM applyPiece d = .ok e ↔
      (∀ piece ∈ pieces, ∃ p, parameter? piece = some p ∧ Readable p) ∧
        e = d.after (pieces.filterMap parameter?) := by
  induction pieces generalizing d with
  | nil =>
    rw [List.foldlM_nil, pure_eq_ok_iff, List.filterMap_nil, after_nil, eq_comm]
    simp
  | cons piece pieces ih =>
    have hcons : ∀ {p}, parameter? piece = some p →
        (piece :: pieces).filterMap parameter? = [p] ++ pieces.filterMap parameter? := by
      intro p hp
      rw [List.filterMap_cons, hp]
      rfl
    rw [List.foldlM_cons, bind_eq_ok_iff, List.forall_mem_cons]
    constructor
    · rintro ⟨f, hf, he⟩
      obtain ⟨p, hp, hr, rfl⟩ := (applyPiece_eq_ok_iff d f piece).mp hf
      obtain ⟨hps, rfl⟩ := (ih _).mp he
      rw [hcons hp, after_append]
      exact ⟨⟨⟨p, hp, hr⟩, hps⟩, rfl⟩
    · rintro ⟨⟨⟨p, hp, hr⟩, hps⟩, he⟩
      rw [hcons hp, after_append] at he
      exact ⟨d.after [p], (applyPiece_eq_ok_iff d _ piece).mpr ⟨p, hp, hr, rfl⟩,
        (ih _).mpr ⟨hps, he⟩⟩

end Draft

namespace Request

def queryDraft (query : String) : Draft :=
  Draft.after {} ((queryPieces query).filterMap parameter?)

theorem ofQueryString_eq_ok_iff (query : String) (r : Request) :
    ofQueryString query = .ok r ↔
      (∀ piece ∈ queryPieces query, ∃ p, parameter? piece = some p ∧ Readable p) ∧
        (queryDraft query).Complete ∧ r = (queryDraft query).request := by
  rw [ofQueryString, bind_eq_ok_iff]
  simp only [Draft.foldlM_applyPiece_eq_ok_iff, ← Draft.build_eq_ok_iff]
  constructor
  · rintro ⟨d, ⟨hp, rfl⟩, hb⟩
    exact ⟨hp, hb⟩
  · rintro ⟨hp, hb⟩
    exact ⟨_, ⟨hp, rfl⟩, hb⟩

/-! ## Joined pieces -/

theorem queryPieces_of_head_ne {query : String} (h : query.toList.head? ≠ some '?') :
    queryPieces query = (Text.pieces '&' query.toList).filter (· ≠ []) := by
  unfold queryPieces
  split
  · next rest heq => exact absurd (by rw [heq]; rfl) h
  · rfl

theorem queryPieces_question (query : String) :
    queryPieces ("?" ++ query) = (Text.pieces '&' query.toList).filter (· ≠ []) := by
  have hl : ("?" ++ query).toList = '?' :: query.toList := by simp
  simp only [queryPieces, hl]

theorem head?_join_ne {texts : List String} (h : ∀ text ∈ texts, text.toList.head? ≠ some '?') :
    (Text.join "&" texts).toList.head? ≠ some '?' := by
  cases texts with
  | nil => simp [Text.join]
  | cons text rest =>
    have ht := h text List.mem_cons_self
    by_cases hr : rest = []
    · subst hr
      exact ht
    · rw [Text.join_cons _ _ hr]
      cases hl : text.toList with
      | nil => simp [hl]
      | cons c tail =>
        rw [hl] at ht
        simpa [hl] using ht

/-- Joined pieces are found again, except for those that are empty. -/
theorem filter_pieces_join {texts : List String} (h : ∀ text ∈ texts, '&' ∉ text.toList) :
    (Text.pieces '&' (Text.join "&" texts).toList).filter (· ≠ []) =
      (texts.map String.toList).filter (· ≠ []) := by
  by_cases hne : texts = []
  · subst hne
    rfl
  · have hpieces : ∀ text ∈ texts, Text.pieces '&' text.toList = [text.toList] :=
      fun text hm => Text.pieces_of_not_mem '&' _ (h text hm)
    rw [Text.pieces_join rfl hne, List.flatMap_congr hpieces, ← List.map_eq_flatMap]

end Request

end DeviceGraph.Search
