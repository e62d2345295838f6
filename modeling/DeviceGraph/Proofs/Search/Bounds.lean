import DeviceGraph.Proofs.Number.Rounding
import DeviceGraph.Proofs.Search.QueryString

/-!
# Whole numbers as bounds

The value of a filter can be any whole number of a signed or an unsigned word, and it is written
with all its digits. A filter that compares by size reads them back as a signed word. An unsigned
number beyond the signed ones does not fit there and comes back as the nearest double, from the
text of the filter as from either form of a request.
-/

set_option autoImplicit false

namespace DeviceGraph.Search

namespace Filter

/-! ## The text of a bound -/

theorem restoredText_of_whole {f : Filter} {n : Int} (h : f.value = .number (.whole n)) :
    f.restoredText = decimalText n := by
  have htext : f.valueText = decimalText n := by
    simp [valueText, h, Json.text, Json.chars, Numeral.text]
  rw [restoredText, htext, restoreColons_of_no_code (decimalText_no_code n), String.ofList_toList]

theorem readValue_of_signed {op : Operator} (hr : op.isRange = true) {n : Int}
    (h : Number.fitsSigned n = true) : readValue op (decimalText n) = .number (.whole n) := by
  rw [readValue, if_pos hr, Number.signed?_decimalText h]

theorem readValue_of_finite {op : Operator} (hr : op.isRange = true) {n : Int} {x : Double}
    (h : ¬ Number.fitsSigned n = true) (hx : Number.finite? (decimalText n) = some x) :
    readValue op (decimalText n) = .number (.double x) := by
  have hsigned : Number.signed? (decimalText n) = none := by
    rw [Number.signed?, Number.int?_decimalText, Option.filter_some, if_neg h]
  rw [readValue, if_pos hr, hsigned, hx]

/-- What a bound is read as: the number itself while a signed word holds it, and else the nearest
double, a multiple of 2048. -/
structure ReadsBound (n : Int) (value : Json) : Prop where
  kept : value = .number (.whole n) ↔ n < (Number.half64 : Int)
  rounded : (Number.half64 : Int) ≤ n → ∃ x : Double, value = .number (.double x) ∧
    x.negative = false ∧
    x.units = Double.roundQuotient n.toNat 2048 * 2048 * Double.unitsOfOne

theorem readsBound_decimalText {op : Operator} (hr : op.isRange = true) {n : Int}
    (hn : Number.fitsSigned n = true ∨ Number.fitsUnsigned n = true) :
    ReadsBound n (readValue op (decimalText n)) := by
  by_cases hbeyond : (Number.half64 : Int) ≤ n
  · have hsigned : ¬ Number.fitsSigned n = true := by
      simp only [Number.fitsSigned, Bool.and_eq_true, decide_eq_true_eq]
      exact fun h => Int.not_lt.mpr hbeyond h.2
    obtain ⟨x, hx, hsign, hunits⟩ :=
      Number.exists_finite?_decimalText hbeyond (hn.resolve_left hsigned)
    rw [readValue_of_finite hr hsigned hx]
    refine ⟨⟨?_, fun h => absurd h (Int.not_lt.mpr hbeyond)⟩, fun _ => ⟨x, rfl, hsign, hunits⟩⟩
    intro h
    cases h
  · have hlt : n < (Number.half64 : Int) := Int.not_le.mp hbeyond
    have hsigned : Number.fitsSigned n = true := by
      rcases hn with h | h
      · exact h
      · simp only [Number.fitsSigned, Number.fitsUnsigned, Bool.and_eq_true,
          decide_eq_true_eq] at h ⊢
        omega
    rw [readValue_of_signed hr hsigned]
    exact ⟨iff_of_true rfl hlt, fun h => absurd h hbeyond⟩

theorem readsBound_reread {op : Operator} (hr : op.isRange = true) {f : Filter} {n : Int}
    (hv : f.value = .number (.whole n))
    (hn : Number.fitsSigned n = true ∨ Number.fitsUnsigned n = true) :
    ReadsBound n (f.reread op).value := by
  rw [reread, restoredText_of_whole hv]
  exact readsBound_decimalText hr hn

end Filter

namespace Request

/-! ## Filters of a request that is read back -/

theorem ofQueryString_queryString_of_commaless {r : Request} (h : r.Valid) (hc : r.Commaless) :
    ofQueryString r.queryString = .ok r.reread := by
  rw [ofQueryString_queryString_eq_ok_iff h, rescoped_of_commaless h hc.types hc.path]
  exact ⟨hc.values, build_draft (valid_reread h)⟩

theorem filters_of_ofQueryString {r q : Request} (h : r.Valid)
    (hq : ofQueryString r.queryString = .ok q) : q.filters = r.reread.filters := by
  obtain ⟨_, hbuild⟩ := (ofQueryString_queryString_eq_ok_iff h q).mp hq
  rw [((Draft.build_eq_ok_iff _ _).mp hbuild).2]
  rfl

theorem getElem?_filters_reread {r : Request} {op : Operator} {i : Nat} {f : Filter}
    (h : (r.filters op)[i]? = some f) : (r.reread.filters op)[i]? = some (f.reread op) := by
  rw [reread, List.getElem?_map, h]
  rfl

end Request

/-! ## Which bounds survive -/

/-- A written bound is read back with its field and its hops, and with its number exactly when a
signed word holds it. In a request it comes back as the same filter in the same place. -/
theorem Filter.bound_survives_iff {op : Operator} (hr : op.isRange = true) {f : Filter}
    (hf : f.check = .ok ()) {n : Int} (hv : f.value = .number (.whole n))
    (hn : Number.fitsSigned n = true ∨ Number.fitsUnsigned n = true) :
    ∃ g, ofWire op f.wire = .ok g ∧ g.field = f.field ∧ g.hops = f.hops ∧
      ReadsBound n g.value ∧
      ∀ (d : Draft) (r : Request) (i : Nat), d.build = .ok r → (r.filters op)[i]? = some f →
        (∃ q, Request.ofValueMap r.valueMap = .ok q ∧ (q.filters op)[i]? = some g) ∧
        (r.Commaless → ∃ q, Request.ofQueryString r.queryString = .ok q) ∧
        ∀ q, Request.ofQueryString r.queryString = .ok q → (q.filters op)[i]? = some g := by
  have hread := read?_wire op ((check_eq_ok_iff f).mp hf)
  refine ⟨f.reread op, (ofWire_eq_ok_iff op _ _).mpr hread, rfl, rfl, readsBound_reread hr hv hn,
    ?_⟩
  intro d r i hb hi
  have hvalid := Draft.valid_of_build hb
  refine ⟨⟨_, Request.ofValueMap_valueMap_of_valid hvalid, Request.getElem?_filters_reread hi⟩,
    fun hc => ⟨_, Request.ofQueryString_queryString_of_commaless hvalid hc⟩, fun q hq => ?_⟩
  rw [Request.filters_of_ofQueryString hvalid hq]
  exact Request.getElem?_filters_reread hi

def reachedBound (n : Int) : Filter := ⟨"mileage", .number (.whole n), [⟨"located_at", .incoming⟩]⟩

theorem Filter.bound_survives_largest_signed :
    (reachedBound 9223372036854775807).check = .ok () ∧
      ∃ g, ofWire .lte (reachedBound 9223372036854775807).wire = .ok g ∧
        g = reachedBound 9223372036854775807 := by
  have hcheck : (reachedBound 9223372036854775807).check = .ok () := by rfl
  obtain ⟨g, hg, hfield, hhops, hbound, _⟩ :=
    bound_survives_iff (show Operator.lte.isRange = true from rfl) hcheck rfl (.inl (by decide))
  refine ⟨hcheck, g, hg, ?_⟩
  cases g
  simp only [reachedBound, mk.injEq] at hfield hhops ⊢
  exact ⟨hfield, hbound.kept.mpr (by decide), hhops⟩

/-- The largest unsigned number comes back as a double, and one larger. -/
theorem Filter.bound_lost_largest_unsigned :
    (reachedBound 18446744073709551615).check = .ok () ∧
      Number.fitsUnsigned 18446744073709551615 = true ∧
      ∃ g, ofWire .lte (reachedBound 18446744073709551615).wire = .ok g ∧
        g.value ≠ .number (.whole 18446744073709551615) ∧
        ∃ x : Double, g.value = .number (.double x) ∧
          x.units = 18446744073709551616 * Double.unitsOfOne := by
  have hcheck : (reachedBound 18446744073709551615).check = .ok () := by rfl
  have hread := read?_wire .lte ((check_eq_ok_iff _).mp hcheck)
  have hbound : ReadsBound 18446744073709551615
      ((reachedBound 18446744073709551615).reread .lte).value :=
    readsBound_reread rfl rfl (.inr (by decide))
  obtain ⟨x, hx, _, hunits⟩ := hbound.rounded (by decide)
  refine ⟨hcheck, by decide, _, (ofWire_eq_ok_iff _ _ _).mpr hread, ?_, x, hx, ?_⟩
  · exact fun h => absurd (hbound.kept.mp h) (by decide)
  · have hround : Double.roundQuotient (18446744073709551615 : Int).toNat 2048 * 2048 =
        18446744073709551616 := by decide
    exact hunits.trans (congrArg (· * Double.unitsOfOne) hround)

end DeviceGraph.Search
