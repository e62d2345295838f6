import DeviceGraph.Proofs.Search.Pieces
import DeviceGraph.Search.Statement

/-!
# The order of the pieces

Types and filters are added; of several paths the last one stays, and so does the
last word on whether to count. So pieces of different names may change places,
while pieces of one name may not: what a query string stands for is fixed by the
pieces of each name.
-/

set_option autoImplicit false

namespace DeviceGraph.Search
open Checks

def textsNamed (name : String) (texts : List String) : List String :=
  texts.filter fun text => pieceName text.toList = name

/-- The same pieces in another order, in which those of one name follow each other as before. -/
structure Rearranged (texts others : List String) : Prop where
  perm : texts.Perm others
  order : ∀ name, textsNamed name texts = textsNamed name others

theorem textsNamed_eq_nil {name : String} {texts : List String}
    (h : ∀ text ∈ texts, pieceName text.toList ≠ name) : textsNamed name texts = [] :=
  List.filter_eq_nil_iff.mpr fun text hm => by simpa using h text hm

/-- Only the names that occur have to be looked at. -/
theorem rearranged_of_names {texts others : List String} (hp : texts.Perm others)
    (h : ∀ text ∈ texts,
      textsNamed (pieceName text.toList) texts = textsNamed (pieceName text.toList) others) :
    Rearranged texts others := by
  refine ⟨hp, fun name => ?_⟩
  by_cases hn : ∃ text ∈ texts, pieceName text.toList = name
  · obtain ⟨text, hm, rfl⟩ := hn
    exact h text hm
  · have hnone : ∀ text ∈ texts, pieceName text.toList ≠ name :=
      fun text hm he => hn ⟨text, hm, he⟩
    rw [textsNamed_eq_nil hnone, textsNamed_eq_nil fun text hm => hnone text (hp.mem_iff.mpr hm)]

def filled (texts : List String) : List (List Char) :=
  (texts.map String.toList).filter (· ≠ [])

theorem filter_filled (name : String) (texts : List String) :
    (filled texts).filter (pieceName · = name) = filled (textsNamed name texts) := by
  rw [filled, List.filter_comm, List.filter_map]
  rfl

/-- Parameters of rearranged pieces come in the same order under each name. -/
theorem given_rearranged {texts others : List String} (h : Rearranged texts others)
    (name : String) :
    given name ((filled texts).filterMap parameter?) =
      given name ((filled others).filterMap parameter?) := by
  rw [given_filterMap_parameter?, given_filterMap_parameter?, filter_filled, filter_filled,
    h.order name]

namespace Request

theorem ofQueryString_join_eq_ok_iff {texts : List String}
    (hm : ∀ text ∈ texts, '&' ∉ text.toList) (hq : ∀ text ∈ texts, text.toList.head? ≠ some '?')
    (r : Request) :
    ofQueryString (Text.join "&" texts) = .ok r ↔
      (∀ piece ∈ filled texts, ∃ p, parameter? piece = some p ∧ Readable p) ∧
      (Draft.after {} ((filled texts).filterMap parameter?)).build = .ok r := by
  rw [ofQueryString_eq_ok_iff, queryDraft, queryPieces_of_head_ne (head?_join_ne hq),
    filter_pieces_join hm, Draft.build_eq_ok_iff]
  rfl

theorem ofQueryString_rearranged_eq_ok_iff {texts others : List String}
    (h : Rearranged texts others) (hm : ∀ text ∈ texts, '&' ∉ text.toList)
    (hq : ∀ text ∈ texts, text.toList.head? ≠ some '?') (r : Request) :
    ofQueryString (Text.join "&" texts) = .ok r ↔
      ofQueryString (Text.join "&" others) = .ok r := by
  have hpieces : (filled texts).Perm (filled others) := (h.perm.map String.toList).filter _
  rw [ofQueryString_join_eq_ok_iff hm hq,
    ofQueryString_join_eq_ok_iff (fun text ht => hm text (h.perm.mem_iff.mpr ht))
      fun text ht => hq text (h.perm.mem_iff.mpr ht),
    Draft.after_congr (given_rearranged h)]
  simp only [hpieces.mem_iff]

def compiled (query : String) (page : Option Page) : Except SearchError Statement := do
  let r ← ofQueryString query
  (r.statement page).mapError .graph

/-- Rearranged pieces are both refused, or ask for the same and run as the same statement. -/
theorem ofQueryString_rearranged {texts others : List String} (h : Rearranged texts others)
    (hm : ∀ text ∈ texts, '&' ∉ text.toList)
    (hq : ∀ text ∈ texts, text.toList.head? ≠ some '?') :
    (∃ e e', ofQueryString (Text.join "&" texts) = .error e ∧
        ofQueryString (Text.join "&" others) = .error e') ∨
      (∃ r, ofQueryString (Text.join "&" texts) = .ok r ∧
        ofQueryString (Text.join "&" others) = .ok r) ∧
      ∀ page, compiled (Text.join "&" texts) page = compiled (Text.join "&" others) page := by
  have hiff := ofQueryString_rearranged_eq_ok_iff h hm hq
  cases ha : ofQueryString (Text.join "&" texts) with
  | ok r =>
    have hb := (hiff r).mp ha
    refine .inr ⟨⟨r, rfl, hb⟩, fun page => ?_⟩
    rw [compiled, compiled, ha, hb]
  | error e =>
    cases hb : ofQueryString (Text.join "&" others) with
    | error e' => exact .inl ⟨e, e', rfl, rfl⟩
    | ok r =>
      rw [(hiff r).mpr hb] at ha
      cases ha

def fleetPieces : List String :=
  ["type=ecu", "gte=load:1", "summarize=no", "type=", "type=brake", "summarize=true", "gte=load:2"]

def fleetOthers : List String :=
  ["gte=load:1", "type=ecu", "type=", "gte=load:2", "type=brake", "summarize=no", "summarize=true"]

theorem rearranged_fleetPieces : Rearranged fleetPieces fleetOthers :=
  rearranged_of_names (by decide) (by decide)

theorem ofQueryString_fleetPieces :
    Rearranged fleetPieces fleetOthers ∧ (∀ text ∈ fleetPieces, '&' ∉ text.toList) ∧
      (∀ text ∈ fleetPieces, text.toList.head? ≠ some '?') ∧
      ∃ r, ofQueryString (Text.join "&" fleetPieces) = .ok r ∧
        ofQueryString (Text.join "&" fleetOthers) = .ok r ∧
        r.types = ["ecu", "brake"] ∧ r.summarize = true := by
  have hm : ∀ text ∈ fleetPieces, '&' ∉ text.toList := by decide
  have hq : ∀ text ∈ fleetPieces, text.toList.head? ≠ some '?' := by decide
  have hread : (ofQueryString (Text.join "&" fleetPieces)).toOption.map
      (fun r => (r.types, r.summarize)) = some (["ecu", "brake"], true) := by decide +kernel
  refine ⟨rearranged_fleetPieces, hm, hq, ?_⟩
  rcases ofQueryString_rearranged rearranged_fleetPieces hm hq with
    ⟨e, _, he, _⟩ | ⟨⟨r, hr, ho⟩, _⟩
  · rw [he] at hread
    cases hread
  · rw [hr] at hread
    obtain ⟨ht, hs⟩ := Prod.ext_iff.mp (Option.some.inj hread)
    exact ⟨r, hr, ho, ht, hs⟩

end Request

end DeviceGraph.Search
