import DeviceGraph.Proofs.Search.Pieces
import DeviceGraph.Proofs.Search.ValueMap

/-!
# Reading a request from its query string

Percent codes hide every mark of a query string but the commas between the
values of one parameter, which come back decoded. So reading a query string is
reading its parameters with every value cut at its commas. A map of parameters
whose values hold no comma gives the same request or the same error as its query
string, and so a request without commas comes back as from its map.
-/

set_option autoImplicit false

namespace DeviceGraph.Search
open Checks

def coded (p : String × List String) : String :=
  p.1 ++ "=" ++ Text.Percent.encode (Text.join "," p.2)

def recoded (p : String × List String) : String × List String :=
  (p.1, p.2.flatMap (Text.split ','))

theorem toList_coded (p : String × List String) :
    (coded p).toList = p.1.toList ++ '=' :: (Text.Percent.encode (Text.join "," p.2)).toList := by
  simp [coded]

theorem ampersand_not_mem_coded {p : String × List String} (h : '&' ∉ p.1.toList) :
    '&' ∉ (coded p).toList := by
  intro hm
  rw [toList_coded, List.mem_append] at hm
  rcases hm with hm | hm
  · exact h hm
  · rcases List.mem_cons.mp hm with hm | hm
    · exact absurd hm (by decide)
    · exact Text.Percent.not_mem_encode (by decide) (by decide) _ hm

theorem coded_toList_ne_nil (p : String × List String) : (coded p).toList ≠ [] := by
  rw [toList_coded]
  simp

theorem applyPiece_coded (d : Draft) {p : String × List String} (he : '=' ∉ p.1.toList)
    (hv : p.2 ≠ []) : d.applyPiece (coded p).toList = d.apply (recoded p).1 (recoded p).2 := by
  simp only [Draft.applyPiece, toList_coded, Text.cutFirst_append '=' he, Option.getD_some,
    String.ofList_toList, Text.Percent.decode_encode, recoded]
  rw [← Text.split_join (by rfl : ",".toList = [',']) hv]
  rfl

structure Codable (ps : Parameters) : Prop where
  ampersand : ∀ p ∈ ps, '&' ∉ p.1.toList
  equals : ∀ p ∈ ps, '=' ∉ p.1.toList
  values : ∀ p ∈ ps, p.2 ≠ []

theorem pieces_coded {ps : Parameters} (h : Codable ps) :
    (Text.pieces '&' (Text.join "&" (ps.map coded)).toList).filter (· ≠ []) =
      ps.map fun p => (coded p).toList := by
  have hmarks : ∀ text ∈ ps.map coded, '&' ∉ text.toList := by
    intro text hm
    obtain ⟨p, hp, rfl⟩ := List.mem_map.mp hm
    exact ampersand_not_mem_coded (h.ampersand p hp)
  rw [Request.filter_pieces_join hmarks, List.map_map, List.filter_eq_self.mpr]
  · rfl
  · intro piece hm
    obtain ⟨p, _, rfl⟩ := List.mem_map.mp hm
    simpa using coded_toList_ne_nil p

theorem foldlM_applyPiece {ps : Parameters} (h : Codable ps) (d : Draft) :
    (ps.map fun p => (coded p).toList).foldlM Draft.applyPiece d =
      (ps.map recoded).foldlM (fun d p => d.apply p.1 p.2) d := by
  induction ps generalizing d with
  | nil => rfl
  | cons p ps ih =>
    have hrest : Codable ps := ⟨fun q hq => h.ampersand q (List.mem_cons_of_mem p hq),
      fun q hq => h.equals q (List.mem_cons_of_mem p hq),
      fun q hq => h.values q (List.mem_cons_of_mem p hq)⟩
    have hp := applyPiece_coded d (h.equals p List.mem_cons_self) (h.values p List.mem_cons_self)
    rw [List.map_cons, List.map_cons, List.foldlM_cons, List.foldlM_cons, hp]
    exact bind_congr fun e => ih hrest e

namespace Request

theorem head?_join_coded {ps : Parameters} (h : ∀ p ∈ ps, p.1.toList.head? ≠ some '?') :
    (Text.join "&" (ps.map coded)).toList.head? ≠ some '?' := by
  apply head?_join_ne
  intro text hm
  obtain ⟨p, hp, rfl⟩ := List.mem_map.mp hm
  have hn := h p hp
  rw [toList_coded]
  cases hl : p.1.toList with
  | nil => simp
  | cons c rest =>
    rw [hl] at hn
    exact hn

/-- Reading a query string is reading its parameters with their values cut at
commas, with or without a question mark in front. -/
theorem ofQueryString_coded {ps : Parameters} (h : Codable ps)
    (hq : ∀ p ∈ ps, p.1.toList.head? ≠ some '?') :
    ofQueryString (Text.join "&" (ps.map coded)) =
        ((ps.map recoded).foldlM (fun d p => d.apply p.1 p.2) {} >>= Draft.build) ∧
      ofQueryString ("?" ++ Text.join "&" (ps.map coded)) =
        ((ps.map recoded).foldlM (fun d p => d.apply p.1 p.2) {} >>= Draft.build) := by
  constructor
  · rw [ofQueryString, queryPieces_of_head_ne (head?_join_coded hq), pieces_coded h,
      foldlM_applyPiece h]
  · rw [ofQueryString, queryPieces_question, pieces_coded h, foldlM_applyPiece h]

theorem map_recoded {ps : Parameters} (h : ∀ p ∈ ps, ∀ value ∈ p.2, ',' ∉ value.toList) :
    ps.map recoded = ps := by
  have hself : ∀ p ∈ ps, recoded p = p :=
    fun p hp => Prod.ext rfl (Text.flatMap_split_of_not_mem (h p hp))
  rw [List.map_congr_left hself, List.map_id']

/-- The readers agree on any map, also on one that neither of them reads: when
names hold no mark of a query string and values no comma, the map gives what its
parameters give as a query string. -/
theorem ofValueMap_eq_ofQueryString (m : Dict (List String)) (h : Codable m.entries)
    (hq : ∀ p ∈ m.entries, p.1.toList.head? ≠ some '?')
    (hc : ∀ p ∈ m.entries, ∀ value ∈ p.2, ',' ∉ value.toList) :
    ofValueMap m = ofQueryString (Text.join "&" (m.entries.map coded)) := by
  rw [(ofQueryString_coded h hq).1, map_recoded hc]
  rfl

def refusedMap : Dict (List String) :=
  Dict.ofList [("unknown", [""]), ("type", ["ecu", ""]), ("eq", ["name:50% &=?", "a:up:b:c"])]

theorem ofQueryString_refusedMap :
    Codable refusedMap.entries ∧
      (∀ p ∈ refusedMap.entries, p.1.toList.head? ≠ some '?') ∧
      (∀ p ∈ refusedMap.entries, ∀ value ∈ p.2, ',' ∉ value.toList) ∧
      ofQueryString (Text.join "&" (refusedMap.entries.map coded)) =
        .error (.malformedFilter "a:up:b:c") := by
  have h : Codable refusedMap.entries := ⟨by decide, by decide, by decide⟩
  have hq : ∀ p ∈ refusedMap.entries, p.1.toList.head? ≠ some '?' := by decide
  have hc : ∀ p ∈ refusedMap.entries, ∀ value ∈ p.2, ',' ∉ value.toList := by decide
  have hm : ofValueMap refusedMap = .error (.malformedFilter "a:up:b:c") := by rfl
  exact ⟨h, hq, hc, (ofValueMap_eq_ofQueryString refusedMap h hq hc).symm.trans hm⟩

theorem parameterNames_marks : ∀ name ∈ parameterNames,
    '&' ∉ name.toList ∧ '=' ∉ name.toList ∧ name.toList.head? ≠ some '?' := by
  decide

theorem marks_of_mem_parameters {r : Request} {p : String × List String}
    (h : p ∈ r.parameters) :
    '&' ∉ p.1.toList ∧ '=' ∉ p.1.toList ∧ p.1.toList.head? ≠ some '?' :=
  parameterNames_marks p.1 (r.names_sublist.subset (List.mem_map.mpr ⟨p, h, rfl⟩))

theorem ofQueryString_eq_cutParameters (r : Request) :
    ofQueryString r.queryString = ((r.cutParameters (Text.split ',')).foldlM
        (fun d p => d.apply p.1 p.2) {} >>= Draft.build) ∧
      ofQueryString ("?" ++ r.queryString) = ofQueryString r.queryString := by
  have hc : Codable r.parameters := ⟨fun p hp => (marks_of_mem_parameters hp).1,
    fun p hp => (marks_of_mem_parameters hp).2.1, r.values_ne_nil⟩
  obtain ⟨hs, hq⟩ := ofQueryString_coded hc fun p hp => (marks_of_mem_parameters hp).2.2
  exact ⟨hs, hq.trans hs.symm⟩

def rescoped (r : Request) : Draft where
  types := (r.types.flatMap (Text.split ',')).filter (· ≠ "")
  ancestorPath := r.ancestorPath.bind fun path => (Text.split ',' path).head?
  summarize := r.summarize
  filters := r.reread.filters

theorem recut_commas {r : Request} (h : r.Valid)
    (hv : ∀ op, ∀ f ∈ r.filters op, ',' ∉ f.valueText.toList) :
    r.recut (Text.split ',') = r.rescoped := by
  have hwhole := congrArg Draft.filters (recut_whole h)
  have hf : ∀ op, ((r.filters op).flatMap fun f => Text.split ',' f.wire) =
      (r.filters op).flatMap fun f => [f.wire] := by
    intro op
    apply List.flatMap_congr
    intro f hm
    exact Text.split_of_not_mem (Filter.comma_not_mem_wire (h.writable op f hm) (hv op f hm))
  simp only [recut, hf, rescoped, Draft.mk.injEq, true_and]
  exact hwhole

/-- A query string is read exactly when no value of a filter holds a comma and
something is left to ask for. -/
theorem ofQueryString_queryString_eq_ok_iff {r : Request} (h : r.Valid) (q : Request) :
    ofQueryString r.queryString = .ok q ↔
      (∀ op, ∀ f ∈ r.filters op, ',' ∉ f.valueText.toList) ∧ r.rescoped.build = .ok q := by
  have hreadable : (∀ op, ∀ f ∈ r.filters op, ∀ text ∈ Text.split ',' f.wire,
      (Filter.read? op text).isSome) ↔ ∀ op, ∀ f ∈ r.filters op, ',' ∉ f.valueText.toList := by
    constructor
    · intro hr op f hf hm
      obtain ⟨text, ht, hn⟩ := Filter.exists_unreadable_piece op hm
      have hsome := hr op f hf text ht
      rw [hn] at hsome
      cases hsome
    · intro hv op f hf text ht
      have hw := h.writable op f hf
      rw [Text.split_of_not_mem (Filter.comma_not_mem_wire hw (hv op f hf)),
        List.mem_singleton] at ht
      rw [ht, Filter.read?_wire op hw]
      rfl
  rw [(ofQueryString_eq_cutParameters r).1, bind_eq_ok_iff]
  simp only [Draft.foldlM_apply_eq_ok_iff, readable_cutParameters_iff, hreadable,
    after_cutParameters (by rfl : Text.split ',' "true" = ["true"])]
  constructor
  · rintro ⟨d, ⟨hv, rfl⟩, hb⟩
    exact ⟨hv, recut_commas h hv ▸ hb⟩
  · rintro ⟨hv, hb⟩
    exact ⟨r.rescoped, ⟨hv, (recut_commas h hv).symm⟩, hb⟩

structure Commaless (r : Request) : Prop where
  types : ∀ t ∈ r.types, ',' ∉ t.toList
  path : ∀ path ∈ r.ancestorPath, ',' ∉ path.toList
  values : ∀ op, ∀ f ∈ r.filters op, ',' ∉ f.valueText.toList

theorem rescoped_of_commaless {r : Request} (h : r.Valid)
    (ht : ∀ t ∈ r.types, ',' ∉ t.toList) (hp : ∀ path ∈ r.ancestorPath, ',' ∉ path.toList) :
    r.rescoped = r.reread.draft := by
  have htypes : (r.types.flatMap (Text.split ',')).filter (· ≠ "") = r.types := by
    rw [Text.flatMap_split_of_not_mem ht, List.filter_eq_self]
    intro t hm
    have hne : t ≠ "" := fun he => h.named (he ▸ hm)
    simp [hne]
  have hpath : (r.ancestorPath.bind fun path => (Text.split ',' path).head?) =
      r.ancestorPath := by
    cases hr : r.ancestorPath with
    | none => rfl
    | some path =>
      rw [Option.bind_some, Text.split_of_not_mem (hp path hr)]
      rfl
  simp only [rescoped, htypes, hpath]
  rfl

/-- The written forms agree: without commas, a request comes back from its query
string, with and without a question mark, as from its map of parameters. -/
theorem written_forms_agree {d : Draft} {r : Request} (h : d.build = .ok r)
    (hc : r.Commaless) :
    ofQueryString r.queryString = .ok r.reread ∧
      ofQueryString ("?" ++ r.queryString) = .ok r.reread ∧
      ofValueMap r.valueMap = .ok r.reread := by
  have hv := Draft.valid_of_build h
  have hq : ofQueryString r.queryString = .ok r.reread := by
    rw [ofQueryString_queryString_eq_ok_iff hv, rescoped_of_commaless hv hc.types hc.path]
    exact ⟨hc.values, build_draft (valid_reread hv)⟩
  refine ⟨hq, ?_, ofValueMap_valueMap_of_valid hv⟩
  rw [(ofQueryString_eq_cutParameters r).2, hq]

theorem commaless_hopDraft : (hopDraft "€ & = ? %: 😀").request.Commaless := by
  refine ⟨by decide, fun path hp => (by cases hp), fun op => ?_⟩
  cases op <;> decide

theorem written_forms_agree_hopDraft :
    (hopDraft "€ & = ? %: 😀").build = .ok (hopDraft "€ & = ? %: 😀").request ∧
      (hopDraft "€ & = ? %: 😀").request.Commaless ∧
      ofQueryString ("?" ++ (hopDraft "€ & = ? %: 😀").request.queryString) =
        ofValueMap (hopDraft "€ & = ? %: 😀").request.valueMap := by
  have h : (hopDraft "€ & = ? %: 😀").build = .ok (hopDraft "€ & = ? %: 😀").request := by rfl
  obtain ⟨_, hq, hm⟩ := written_forms_agree h commaless_hopDraft
  exact ⟨h, commaless_hopDraft, hq.trans hm.symm⟩

/-! ## Commas in types and in the path of the group -/

/-- Types that are nothing but commas leave no type behind. -/
theorem rescoped_complete_iff {r : Request} (h : r.Valid) :
    r.rescoped.Complete ↔
      ¬ ((∀ op, r.filters op = []) ∧ ∀ t ∈ r.types, ∀ c ∈ t.toList, c = ',') := by
  have htypes : r.rescoped.types = [] ↔ ∀ t ∈ r.types, ∀ c ∈ t.toList, c = ',' := by
    rw [rescoped, List.filter_eq_nil_iff]
    simp only [List.mem_flatMap, ← Text.split_all_empty_iff]
    constructor
    · intro hall t ht text hm
      simpa using hall text ⟨t, ht, hm⟩
    · rintro hall text ⟨t, ht, hm⟩
      simp [hall t ht text hm]
  have hfilters : (∀ op, r.filters op = []) ↔ ¬ ∃ op, r.rescoped.filters op ≠ [] := by
    simp [rescoped, reread]
  rw [← htypes, hfilters]
  constructor
  · rintro hc ⟨hf, ht⟩
    exact hc.asks.elim (· ht) hf
  · intro hn
    refine ⟨?_, by simp [rescoped], (valid_reread h).writable⟩
    rw [and_comm, not_and_or, not_not] at hn
    exact hn

theorem request_rescoped_eq_iff {r : Request} (h : r.Valid) :
    r.rescoped.request = r.reread ↔
      (∀ t ∈ r.types, ',' ∉ t.toList) ∧ ∀ path ∈ r.ancestorPath, ',' ∉ path.toList := by
  constructor
  · intro he
    constructor
    · intro t ht
      have hm : t ∈ r.rescoped.request.types := by
        rw [he]
        exact ht
      have hm := (List.mem_filter.mp (List.mem_eraseDups.mp hm)).1
      obtain ⟨u, _, hs⟩ := List.mem_flatMap.mp hm
      exact Text.not_mem_of_mem_split hs
    · intro path hp
      have hm : r.rescoped.request.ancestorPath = some path := by
        rw [he]
        exact hp
      have hm := (Option.filter_eq_some_iff.mp hm).1
      obtain ⟨whole, _, hs⟩ := Option.bind_eq_some_iff.mp hm
      exact Text.not_mem_of_mem_split (List.mem_of_head? hs)
  · rintro ⟨ht, hp⟩
    rw [rescoped_of_commaless h ht hp]
    exact ((Draft.build_eq_ok_iff _ _).mp (build_draft (valid_reread h))).2.symm

/-- When a query string cannot stand for another request than the map does: when
a comma in a value keeps it from being read at all, when neither the types nor
the path of the group hold a comma, or when nothing is left to ask for. -/
theorem queryString_faithful_iff {d : Draft} {r : Request} (h : d.build = .ok r) :
    (∀ q, ofQueryString r.queryString = .ok q → ofValueMap r.valueMap = .ok q) ↔
      (∃ op, ∃ f ∈ r.filters op, ',' ∈ f.valueText.toList) ∨
      ((∀ t ∈ r.types, ',' ∉ t.toList) ∧ ∀ path ∈ r.ancestorPath, ',' ∉ path.toList) ∨
      ((∀ op, r.filters op = []) ∧ ∀ t ∈ r.types, ∀ c ∈ t.toList, c = ',') := by
  have hv := Draft.valid_of_build h
  rw [ofValueMap_valueMap_of_valid hv, ← request_rescoped_eq_iff hv]
  -- a query string that is refused cannot mislead; one that is read gives the rescoped request
  by_cases hc : ∃ op, ∃ f ∈ r.filters op, ',' ∈ f.valueText.toList
  · have hbad : ∀ q, ofQueryString r.queryString ≠ .ok q := by
      intro q hq
      obtain ⟨op, f, hf, hm⟩ := hc
      exact ((ofQueryString_queryString_eq_ok_iff hv q).mp hq).1 op f hf hm
    exact ⟨fun _ => .inl hc, fun _ q hq => absurd hq (hbad q)⟩
  · have hvalues : ∀ op, ∀ f ∈ r.filters op, ',' ∉ f.valueText.toList :=
      fun op f hf hm => hc ⟨op, f, hf, hm⟩
    have hread : ∀ q, ofQueryString r.queryString = .ok q ↔
        r.rescoped.Complete ∧ q = r.rescoped.request := by
      intro q
      rw [ofQueryString_queryString_eq_ok_iff hv, Draft.build_eq_ok_iff]
      exact and_iff_right hvalues
    rw [or_iff_right hc]
    by_cases hcomplete : r.rescoped.Complete
    · rw [or_iff_left ((rescoped_complete_iff hv).mp hcomplete)]
      constructor
      · intro hall
        exact (Except.ok.inj (hall _ ((hread _).mpr ⟨hcomplete, rfl⟩))).symm
      · intro he q hq
        rw [((hread q).mp hq).2, he]
    · have hnone := not_not.mp (mt (rescoped_complete_iff hv).mpr hcomplete)
      exact ⟨fun _ => .inr hnone, fun _ q hq => absurd ((hread q).mp hq).1 hcomplete⟩

def scopeDraft (path : String) : Draft := (({} : Draft).withType "ecu").below path

theorem queryString_faithful_scope :
    (scopeDraft "/fleet").build = .ok (scopeDraft "/fleet").request ∧
      ∀ q, ofQueryString (scopeDraft "/fleet").request.queryString = .ok q →
        ofValueMap (scopeDraft "/fleet").request.valueMap = .ok q := by
  have h : (scopeDraft "/fleet").build = .ok (scopeDraft "/fleet").request := by rfl
  exact ⟨h, (queryString_faithful_iff h).mpr (.inr (.inl ⟨by decide, by simp; decide⟩))⟩

/-- A comma in the path of the group: the query string asks below another group. -/
theorem queryString_widens_scope :
    (scopeDraft "/fleet,east").build = .ok (scopeDraft "/fleet,east").request ∧
      ∃ q, ofQueryString (scopeDraft "/fleet,east").request.queryString = .ok q ∧
        q.ancestorPath = some "/fleet" ∧
        ofValueMap (scopeDraft "/fleet,east").request.valueMap ≠ .ok q := by
  have h : (scopeDraft "/fleet,east").build = .ok (scopeDraft "/fleet,east").request := by rfl
  have hv := Draft.valid_of_build h
  have hcomplete : (scopeDraft "/fleet,east").request.rescoped.Complete := by
    rw [rescoped_complete_iff hv]
    rintro ⟨_, ht⟩
    exact absurd (ht "ecu" (by decide) 'e' (by decide)) (by decide)
  have hread : ofQueryString (scopeDraft "/fleet,east").request.queryString =
      .ok (scopeDraft "/fleet,east").request.rescoped.request := by
    rw [ofQueryString_queryString_eq_ok_iff hv, Draft.build_eq_ok_iff]
    exact ⟨fun op f hf => absurd hf List.not_mem_nil, hcomplete, rfl⟩
  refine ⟨h, _, hread, by decide, ?_⟩
  rw [ofValueMap_valueMap_of_valid hv]
  intro hq
  exact absurd (congrArg ancestorPath (Except.ok.inj hq)) (by decide)

end Request

end DeviceGraph.Search
