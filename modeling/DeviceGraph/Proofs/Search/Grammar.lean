import DeviceGraph.Proofs.Search.Pieces
import Mathlib.Data.List.Forall2

/-!
# Which query strings are read

A grammar of query strings: what they are joined from, what a piece may be
called, which codes stand for a text, how a filter is written, and what must be
asked for. It is a grammar of writing, in which nothing is cut; of the reader it
takes the octets of a percent code and no more. A query string is read exactly
when it keeps to this grammar.
-/

set_option autoImplicit false

namespace DeviceGraph.Search
open Checks

/-! ## Written filters -/

/-- Pairs of a relation and a direction, then a field and a value, with colons
between them; of these only the value may hold codes for colons. -/
def WellWritten (text : String) : Prop :=
  ∃ (hops : List (String × String)) (field value : String),
    Text.Parts ':' text (hops.flatMap (fun hop => [hop.1, hop.2]) ++ [field, value]) ∧
      (∀ hop ∈ hops, hop.1 ≠ "" ∧ (hop.2 = "in" ∨ hop.2 = "out")) ∧ field ≠ "" ∧ value ≠ ""

namespace Filter

theorem hopDirection?_eq_some_iff (text : String) (direction : Direction) :
    hopDirection? text = some direction ↔ direction.text = text ∧ direction ≠ .both := by
  constructor
  · intro h
    obtain ⟨ho, hn⟩ := Option.filter_eq_some_iff.mp h
    exact ⟨by simpa using List.find?_some ho, by simpa using hn⟩
  · rintro ⟨rfl, hn⟩
    exact hopDirection?_text hn

theorem ofParts?_eq_some_iff (op : Operator) (parts : List String) (f : Filter) :
    ofParts? op parts = some f ↔
      ∃ value, parts = hopTexts f.hops ++ [f.field, value] ∧
        f.value = readValue op (String.ofList (restoreColons value.toList)) ∧
        ∀ hop ∈ f.hops, hop.direction ≠ .both := by
  constructor
  · intro h
    fun_induction ofParts? op parts generalizing f with
    | case1 field value =>
      obtain rfl := Option.some.inj h
      exact ⟨value, rfl, rfl, fun hop hm => absurd hm List.not_mem_nil⟩
    | case2 relation direction rest _ ih =>
      obtain ⟨d, hd, h⟩ := Option.bind_eq_some_iff.mp h
      obtain ⟨g, hg, h⟩ := Option.bind_eq_some_iff.mp h
      obtain rfl := Option.some.inj h
      obtain ⟨rfl, hn⟩ := (hopDirection?_eq_some_iff direction d).mp hd
      obtain ⟨value, rfl, hv, hall⟩ := ih g hg
      exact ⟨value, rfl, hv, List.forall_mem_cons.mpr ⟨hn, hall⟩⟩
    | case3 => cases h
  · rintro ⟨value, rfl, hv, hall⟩
    rw [ofParts?_hopTexts op f.hops f.field value hall, ← hv]

theorem readValue_empty (op : Operator) : readValue op "" = .string "" := by
  cases op <;> rfl

theorem writableValue_iff (op : Operator) (value : String) :
    WritableValue (readValue op (String.ofList (restoreColons value.toList))) ↔ value ≠ "" := by
  constructor
  · rintro h rfl
    rw [show String.ofList (restoreColons "".toList) = "" from rfl, readValue_empty] at h
    exact h rfl
  · intro h
    refine writableValue_readValue op fun he => ?_
    have hl := congrArg String.toList he
    rw [String.toList_ofList] at hl
    exact restoreColons_ne_nil (mt String.toList_eq_nil_iff.mp h) hl

/-- Written hops are the texts of hops that go one way. -/
theorem exists_hops {hops : List (String × String)}
    (h : ∀ hop ∈ hops, hop.1 ≠ "" ∧ (hop.2 = "in" ∨ hop.2 = "out")) :
    ∃ steps : List Hop, hopTexts steps = hops.flatMap (fun hop => [hop.1, hop.2]) ∧
      ∀ step ∈ steps, step.relation ≠ "" ∧ step.direction ≠ .both := by
  induction hops with
  | nil => exact ⟨[], rfl, fun step hm => absurd hm List.not_mem_nil⟩
  | cons hop hops ih =>
    obtain ⟨⟨hr, hd⟩, hrest⟩ := List.forall_mem_cons.mp h
    obtain ⟨steps, hsteps, hall⟩ := ih hrest
    obtain ⟨direction, ht, hn⟩ : ∃ direction : Direction,
        direction.text = hop.2 ∧ direction ≠ .both := by
      rcases hd with hd | hd
      · exact ⟨.incoming, hd.symm, by decide⟩
      · exact ⟨.outgoing, hd.symm, by decide⟩
    refine ⟨⟨hop.1, direction⟩ :: steps, ?_, List.forall_mem_cons.mpr ⟨⟨hr, hn⟩, hall⟩⟩
    rw [List.flatMap_cons, ← hsteps, ← ht]
    rfl

/-- A text without commas can be read and written again exactly when it is well written. -/
theorem read?_writable_iff (op : Operator) {text : String} (hc : ',' ∉ text.toList) :
    (∃ f, read? op text = some f ∧ f.Writable) ↔ WellWritten text := by
  constructor
  · rintro ⟨f, hf, hw⟩
    obtain ⟨value, hparts, hv, hd⟩ := (ofParts?_eq_some_iff op _ f).mp hf
    refine ⟨f.hops.map fun hop => (hop.relation, hop.direction.text), f.field, value, ?_, ?_,
      hw.field.1, (writableValue_iff op value).mp (hv ▸ hw.value)⟩
    · rw [← Text.split_eq_iff, hparts, hopTexts, List.flatMap_map]
    · intro hop hm
      obtain ⟨step, hs, rfl⟩ := List.mem_map.mp hm
      refine ⟨(hw.relations step hs).1, ?_⟩
      cases hdir : step.direction with
      | incoming => exact .inl rfl
      | outgoing => exact .inr rfl
      | both => exact absurd hdir (hd step hs)
  · rintro ⟨hops, field, value, hparts, hhops, hfield, hvalue⟩
    obtain ⟨steps, hsteps, hall⟩ := exists_hops hhops
    rw [← hsteps, ← Text.split_eq_iff] at hparts
    have hplain : ∀ {name}, name ≠ "" → name ∈ hopTexts steps ++ [field, value] →
        PlainName name := by
      intro name hne hm
      rw [← hparts] at hm
      obtain ⟨piece, hp, rfl⟩ := List.mem_map.mp hm
      rw [PlainName, String.toList_ofList]
      exact ⟨hne, Text.not_mem_of_mem_pieces hp, fun h => hc (Text.mem_of_mem_pieces hp h)⟩
    have hrelation : ∀ step ∈ steps, step.relation ∈ hopTexts steps ++ [field, value] :=
      fun step hs => List.mem_append_left _
        (List.mem_flatMap.mpr ⟨step, hs, List.mem_cons_self⟩)
    refine ⟨⟨field, readValue op (String.ofList (restoreColons value.toList)), steps⟩,
      (ofParts?_eq_some_iff op _ _).mpr ⟨value, hparts, rfl, fun step hs => (hall step hs).2⟩,
      hplain hfield (by simp), (writableValue_iff op value).mpr hvalue,
      fun step hs => hplain (hall step hs).1 (hrelation step hs), fun step hs => (hall step hs).2⟩

end Filter

/-! ## Parameters -/

structure Cut (ps : Parameters) : Prop where
  values : ∀ p ∈ ps, p.2 ≠ []
  commaless : ∀ p ∈ ps, ∀ value ∈ p.2, ',' ∉ value.toList

theorem mem_flatten_given_iff (name : String) (value : String) (ps : Parameters) :
    value ∈ (given name ps).flatten ↔ ∃ p ∈ ps, p.1 = name ∧ value ∈ p.2 := by
  rw [List.mem_flatten]
  constructor
  · rintro ⟨values, hv, hm⟩
    exact ⟨_, (mem_given_iff name values ps).mp hv, rfl, hm⟩
  · rintro ⟨p, hp, rfl, hm⟩
    exact ⟨p.2, (mem_given_iff p.1 p.2 ps).mpr hp, hm⟩

/-- The filters of an operator are all read and can all be written again exactly
when their texts are well written. -/
theorem filters_iff {ps : Parameters} (h : Cut ps) (op : Operator) :
    (∀ text ∈ (given op.name ps).flatten, (Filter.read? op text).isSome) ∧
        (∀ f ∈ (given op.name ps).flatten.filterMap (Filter.read? op), f.Writable) ↔
      ∀ p ∈ ps, p.1 = op.name → ∀ text ∈ p.2, WellWritten text := by
  constructor
  · rintro ⟨hr, hw⟩ p hp hn text ht
    have hm : text ∈ (given op.name ps).flatten :=
      (mem_flatten_given_iff _ _ ps).mpr ⟨p, hp, hn, ht⟩
    obtain ⟨f, hf⟩ := Option.isSome_iff_exists.mp (hr text hm)
    exact (Filter.read?_writable_iff op (h.commaless p hp text ht)).mp
      ⟨f, hf, hw f (List.mem_filterMap.mpr ⟨text, hm, hf⟩)⟩
  · intro hall
    have hread : ∀ text ∈ (given op.name ps).flatten,
        ∃ f, Filter.read? op text = some f ∧ f.Writable := by
      intro text hm
      obtain ⟨p, hp, hn, ht⟩ := (mem_flatten_given_iff _ _ ps).mp hm
      exact (Filter.read?_writable_iff op (h.commaless p hp text ht)).mpr (hall p hp hn text ht)
    constructor
    · intro text hm
      obtain ⟨f, hf, _⟩ := hread text hm
      exact Option.isSome_iff_exists.mpr ⟨f, hf⟩
    · intro g hg
      obtain ⟨text, hm, hg⟩ := List.mem_filterMap.mp hg
      obtain ⟨f, hf, hw⟩ := hread text hm
      rw [hg] at hf
      exact Option.some.inj hf ▸ hw

theorem types_after_ne_nil_iff (ps : Parameters) :
    (Draft.after {} ps).types ≠ [] ↔
      ∃ p ∈ ps, p.1 = typeParameter ∧ ∃ text ∈ p.2, text ≠ "" := by
  simp only [Draft.after, List.nil_append, ne_eq, List.filter_eq_nil_iff, not_forall,
    mem_flatten_given_iff]
  constructor
  · rintro ⟨text, ⟨p, hp, hn, ht⟩, hne⟩
    exact ⟨p, hp, hn, text, ht, by simpa using hne⟩
  · rintro ⟨p, hp, hn, text, ht, hne⟩
    exact ⟨text, ⟨p, hp, hn, ht⟩, by simpa using hne⟩

/-- An operator that occurs has a value, and so leaves a filter if its filters are read. -/
theorem filters_after_ne_nil_iff {ps : Parameters} (h : Cut ps) (op : Operator)
    (hr : ∀ text ∈ (given op.name ps).flatten, (Filter.read? op text).isSome) :
    (Draft.after {} ps).filters op ≠ [] ↔ ∃ p ∈ ps, p.1 = op.name := by
  have hfilters : (Draft.after {} ps).filters op =
      (given op.name ps).flatten.filterMap (Filter.read? op) := rfl
  rw [hfilters]
  constructor
  · intro hne
    obtain ⟨f, hf⟩ := List.exists_mem_of_ne_nil _ hne
    obtain ⟨text, hm, _⟩ := List.mem_filterMap.mp hf
    obtain ⟨p, hp, hn, _⟩ := (mem_flatten_given_iff _ _ ps).mp hm
    exact ⟨p, hp, hn⟩
  · rintro ⟨p, hp, hn⟩
    obtain ⟨text, ht⟩ := List.exists_mem_of_ne_nil p.2 (h.values p hp)
    have hm := (mem_flatten_given_iff op.name text ps).mpr ⟨p, hp, hn, ht⟩
    obtain ⟨f, hf⟩ := Option.isSome_iff_exists.mp (hr text hm)
    exact List.ne_nil_of_mem (List.mem_filterMap.mpr ⟨text, hm, hf⟩)

theorem readable_complete_iff {ps : Parameters} (h : Cut ps) :
    (∀ p ∈ ps, Readable p) ∧ (Draft.after {} ps).Complete ↔
      (∀ p ∈ ps, p.1 ∈ parameterNames) ∧
      (∀ op : Operator, ∀ p ∈ ps, p.1 = op.name → ∀ text ∈ p.2, WellWritten text) ∧
      ((∃ p ∈ ps, p.1 = typeParameter ∧ ∃ text ∈ p.2, text ≠ "") ∨
        ∃ op : Operator, ∃ p ∈ ps, p.1 = op.name) := by
  have hnamed : "" ∉ (Draft.after {} ps).types := by simp [Draft.after]
  rw [forall_readable_iff, ← types_after_ne_nil_iff]
  constructor
  · rintro ⟨⟨hn, hr⟩, hc⟩
    refine ⟨hn, fun op => (filters_iff h op).mp ⟨hr op, hc.writable op⟩, hc.asks.imp_right ?_⟩
    rintro ⟨op, hne⟩
    exact ⟨op, (filters_after_ne_nil_iff h op (hr op)).mp hne⟩
  · rintro ⟨hn, hw, ha⟩
    have hr : ∀ op : Operator, ∀ text ∈ (given op.name ps).flatten,
        (Filter.read? op text).isSome := fun op => ((filters_iff h op).mpr (hw op)).1
    refine ⟨⟨hn, hr⟩, ha.imp_right ?_, hnamed, fun op => ((filters_iff h op).mpr (hw op)).2⟩
    rintro ⟨op, hp⟩
    exact ⟨op, (filters_after_ne_nil_iff h op (hr op)).mpr hp⟩

/-! ## Query strings -/

namespace Request

/-- A piece is a name, or a name, an equals sign and a code that may hold further ones. -/
inductive SpellsPiece : String → String × String → Prop
  | bare {name : String} (h : '=' ∉ name.toList) : SpellsPiece name (name, "")
  | coded {name : String} (code : String) (h : '=' ∉ name.toList) :
    SpellsPiece (name ++ "=" ++ code) (name, code)

/-- Names with their codes as a query string spells them: piece by piece, the empty ones left
out, behind a question mark or without one. -/
def Spells (query : String) (ws : List (String × String)) : Prop :=
  ∃ text pieces, (query = "?" ++ text ∨ query = text ∧ query.toList.head? ≠ some '?') ∧
    Text.Parts '&' text pieces ∧ List.Forall₂ SpellsPiece (pieces.filter (· ≠ "")) ws

/-- A code stands for the text whose octets are those of the code, each percent
sign with two hexadecimal digits being one octet. -/
def Stands (code text : String) : Prop :=
  Text.Utf8.encode text.toList = Text.Percent.bytes code.toList

/-- Known names, codes that stand for texts, well-written filters, and a type or an
operator to ask for. -/
structure Lawful (ws : List (String × String)) : Prop where
  names : ∀ p ∈ ws, p.1 ∈ parameterNames
  codes : ∀ p ∈ ws, ∃ text, Stands p.2 text
  filters : ∀ p ∈ ws, (∃ op : Operator, p.1 = op.name) → ∀ text, Stands p.2 text →
    ∀ pieces, Text.Parts ',' text pieces → ∀ piece ∈ pieces, WellWritten piece
  asks : (∃ p ∈ ws, p.1 = typeParameter ∧ ∃ text, Stands p.2 text ∧
      ∃ pieces, Text.Parts ',' text pieces ∧ ∃ piece ∈ pieces, piece ≠ "") ∨
    ∃ p ∈ ws, ∃ op : Operator, p.1 = op.name

def Grammatical (query : String) : Prop := ∃ ws, Spells query ws ∧ Lawful ws

/-! ## What the reader cuts -/

/-- The names and the codes that the reader cuts out of a query string. -/
def written (query : String) : List (String × String) :=
  (queryPieces query).map fun piece => (pieceName piece, pieceCode piece)

theorem spellsPiece_iff (piece : String) (w : String × String) :
    SpellsPiece piece w ↔ (pieceName piece.toList, pieceCode piece.toList) = w := by
  have hread : ∀ {w}, SpellsPiece piece w →
      (pieceName piece.toList, pieceCode piece.toList) = w := by
    intro w h
    cases h with
    | bare h => simp [pieceName, pieceCode, Text.cutFirst_of_not_mem '=' h]
    | @coded name code h =>
      have hchars : (name ++ "=" ++ code).toList = name.toList ++ '=' :: code.toList := by simp
      simp [pieceName, pieceCode, hchars, Text.cutFirst_append '=' h]
  refine ⟨hread, ?_⟩
  rintro rfl
  -- some name and code are spelled by the piece, and they are those that are read
  obtain ⟨w, hw⟩ : ∃ w, SpellsPiece piece w := by
    by_cases hm : '=' ∈ piece.toList
    · obtain ⟨name, code, hchars, hname⟩ := List.eq_append_cons_of_mem hm
      refine ⟨(String.ofList name, String.ofList code), ?_⟩
      have hpiece : piece = String.ofList name ++ "=" ++ String.ofList code :=
        String.toList_inj.mp (by simp [hchars])
      rw [hpiece]
      exact .coded _ (by rwa [String.toList_ofList])
    · exact ⟨_, .bare hm⟩
  exact hread hw ▸ hw

theorem queryPieces_of_text {query text : String}
    (h : query = "?" ++ text ∨ query = text ∧ query.toList.head? ≠ some '?') :
    queryPieces query = ((Text.split '&' text).filter (· ≠ "")).map String.toList := by
  have hpieces : queryPieces query = (Text.pieces '&' text.toList).filter (· ≠ []) := by
    rcases h with rfl | ⟨rfl, hhead⟩
    · exact queryPieces_question text
    · exact queryPieces_of_head_ne hhead
  rw [hpieces, Text.split, List.filter_map, List.map_map]
  simp [Function.comp_def]

theorem exists_text (query : String) :
    ∃ text, query = "?" ++ text ∨ query = text ∧ query.toList.head? ≠ some '?' := by
  by_cases h : query.toList.head? = some '?'
  · obtain ⟨rest, hrest⟩ := List.head?_eq_some_iff.mp h
    exact ⟨String.ofList rest, .inl (String.toList_inj.mp (by simp [hrest]))⟩
  · exact ⟨query, .inr ⟨rfl, h⟩⟩

/-- The reader cuts out what is spelled. -/
theorem spells_iff (query : String) (ws : List (String × String)) :
    Spells query ws ↔ written query = ws := by
  have hspelled : ∀ pieces : List String, List.Forall₂ SpellsPiece pieces ws ↔
      (pieces.map String.toList).map (fun piece => (pieceName piece, pieceCode piece)) = ws := by
    intro pieces
    have hpiece : SpellsPiece =
        fun piece w => (pieceName piece.toList, pieceCode piece.toList) = w :=
      funext₂ fun piece w => propext (spellsPiece_iff piece w)
    rw [hpiece, List.map_map, ← List.forall₂_eq_eq_eq, List.forall₂_map_left_iff]
    rfl
  constructor
  · rintro ⟨text, pieces, htext, hparts, hws⟩
    rw [written, queryPieces_of_text htext, (Text.split_eq_iff _ _ _).mpr hparts]
    exact (hspelled _).mp hws
  · rintro rfl
    obtain ⟨text, htext⟩ := exists_text query
    refine ⟨text, _, htext, Text.parts_split '&' text, (hspelled _).mpr ?_⟩
    rw [written, queryPieces_of_text htext]

theorem grammatical_iff (query : String) : Grammatical query ↔ Lawful (written query) := by
  simp only [Grammatical, spells_iff, exists_eq_left']

def queryParameters (query : String) : Parameters := (queryPieces query).filterMap parameter?

theorem mem_queryParameters_iff (query : String) (p : String × List String) :
    p ∈ queryParameters query ↔
      ∃ w ∈ written query, ∃ text, Stands w.2 text ∧ p = (w.1, Text.split ',' text) := by
  simp only [queryParameters, written, List.mem_filterMap, List.mem_map, Stands,
    parameter?_eq_some_iff, Text.Percent.decode_eq_ok_iff, exists_exists_and_eq_and]

theorem forall_mem_queryParameters (query : String) (P : String × List String → Prop) :
    (∀ p ∈ queryParameters query, P p) ↔
      ∀ w ∈ written query, ∀ text, Stands w.2 text → P (w.1, Text.split ',' text) := by
  simp only [mem_queryParameters_iff]
  constructor
  · exact fun h w hw text ht => h _ ⟨w, hw, text, ht, rfl⟩
  · rintro h p ⟨w, hw, text, ht, rfl⟩
    exact h w hw text ht

theorem exists_mem_queryParameters (query : String) (P : String × List String → Prop) :
    (∃ p ∈ queryParameters query, P p) ↔
      ∃ w ∈ written query, ∃ text, Stands w.2 text ∧ P (w.1, Text.split ',' text) := by
  simp only [mem_queryParameters_iff]
  constructor
  · rintro ⟨p, ⟨w, hw, text, ht, rfl⟩, h⟩
    exact ⟨w, hw, text, ht, h⟩
  · rintro ⟨w, hw, text, ht, h⟩
    exact ⟨_, ⟨w, hw, text, ht, rfl⟩, h⟩

theorem cut_queryParameters (query : String) : Cut (queryParameters query) where
  values := (forall_mem_queryParameters query _).mpr fun _ _ text _ =>
    mt List.map_eq_nil_iff.mp (Text.pieces_ne_nil ',' text.toList)
  commaless := (forall_mem_queryParameters query _).mpr fun _ _ _ _ _ =>
    Text.not_mem_of_mem_split

theorem pieces_readable_iff (query : String) :
    (∀ piece ∈ queryPieces query, ∃ p, parameter? piece = some p ∧ Readable p) ↔
      (∀ w ∈ written query, ∃ text, Stands w.2 text) ∧ ∀ p ∈ queryParameters query, Readable p := by
  constructor
  · intro h
    constructor
    · intro w hw
      obtain ⟨piece, hm, rfl⟩ := List.mem_map.mp hw
      obtain ⟨p, hp, _⟩ := h piece hm
      obtain ⟨text, ht, _⟩ := (parameter?_eq_some_iff piece p).mp hp
      exact ⟨text, (Text.Percent.decode_eq_ok_iff _ _).mp ht⟩
    · intro p hp
      obtain ⟨piece, hm, hpiece⟩ := List.mem_filterMap.mp hp
      obtain ⟨q, hq, hr⟩ := h piece hm
      rw [hpiece] at hq
      exact Option.some.inj hq ▸ hr
  · rintro ⟨hs, hr⟩ piece hm
    obtain ⟨text, ht⟩ := hs _ (List.mem_map_of_mem hm)
    have hp := parameter?_of_ok ((Text.Percent.decode_eq_ok_iff _ _).mpr ht)
    exact ⟨_, hp, hr _ (List.mem_filterMap.mpr ⟨piece, hm, hp⟩)⟩

/-- A query string is read exactly when it is grammatical. -/
theorem exists_ofQueryString_iff (query : String) :
    (∃ r, ofQueryString query = .ok r) ↔ Grammatical query := by
  have hread : (∃ r, ofQueryString query = .ok r) ↔
      (∀ w ∈ written query, ∃ text, Stands w.2 text) ∧
        (∀ p ∈ queryParameters query, Readable p) ∧
          (Draft.after {} (queryParameters query)).Complete := by
    simp only [ofQueryString_eq_ok_iff, pieces_readable_iff, and_assoc, exists_and_left,
      exists_eq, and_true]
    rfl
  rw [hread, readable_complete_iff (cut_queryParameters query), grammatical_iff]
  simp only [forall_mem_queryParameters, exists_mem_queryParameters]
  constructor
  · rintro ⟨hcodes, hnames, hfilters, hasks⟩
    refine ⟨fun w hw => ?_, hcodes, ?_, hasks.imp ?_ ?_⟩
    · obtain ⟨text, ht⟩ := hcodes w hw
      exact hnames w hw text ht
    · rintro w hw ⟨op, hn⟩ text ht pieces hparts
      exact (Text.split_eq_iff _ _ _).mpr hparts ▸ hfilters op w hw text ht hn
    · rintro ⟨w, hw, text, ht, hn, hne⟩
      exact ⟨w, hw, hn, text, ht, _, Text.parts_split ',' text, hne⟩
    · rintro ⟨op, w, hw, _, _, hn⟩
      exact ⟨w, hw, op, hn⟩
  · intro h
    refine ⟨h.codes, fun w hw _ _ => h.names w hw, ?_, h.asks.imp ?_ ?_⟩
    · exact fun op w hw text ht hn =>
        h.filters w hw ⟨op, hn⟩ text ht _ (Text.parts_split ',' text)
    · rintro ⟨w, hw, hn, text, ht, pieces, hparts, hne⟩
      exact ⟨w, hw, text, ht, hn, (Text.split_eq_iff _ _ _).mpr hparts ▸ hne⟩
    · rintro ⟨w, hw, op, hn⟩
      obtain ⟨text, ht⟩ := h.codes w hw
      exact ⟨op, w, hw, text, ht, hn⟩

end Request

end DeviceGraph.Search
