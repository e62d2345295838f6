import DeviceGraph.Proofs.Search.QueryString

/-!
# A query string after its percent codes are decoded

Decoding the codes of a query string once gives its parameters with every value as the map of
parameters holds it. The colons that appear are those between the hops, the field and the
value of a filter, since a colon of the value is still a code.
-/

set_option autoImplicit false

namespace DeviceGraph.Search

def shown (p : String × List String) : String := p.1 ++ "=" ++ Text.join "," p.2

namespace Request

theorem percent_not_mem_parameterNames : ∀ name ∈ parameterNames, '%' ∉ name.toList := by
  decide

theorem coded_standsFor_shown {r : Request} {p : String × List String} (h : p ∈ r.parameters) :
    Text.Percent.StandsFor (coded p).toList (shown p).toList := by
  have hname : '%' ∉ p.1.toList :=
    percent_not_mem_parameterNames p.1 (r.names_sublist.subset (List.mem_map.mpr ⟨p, h, rfl⟩))
  simp only [coded, shown, Text.Percent.encode, String.toList_append, String.toList_ofList]
  exact (Text.Percent.StandsFor.plain hname).append (.plain (by decide)) |>.append (.encode _)

theorem get?_valueMap_eq_some_iff (r : Request) (name : String) (values : List String) :
    r.valueMap.get? name = some values ↔ (name, values) ∈ r.parameters := by
  rw [Dict.get?_eq_some_iff]
  exact (Dict.perm_ofList r.parameters r.nodup_names).mem_iff

theorem get?_valueMap_operator (r : Request) (op : Operator) :
    r.valueMap.get? op.name =
      if r.filters op = [] then none else some ((r.filters op).map Filter.wire) := by
  apply Option.ext
  intro values
  rw [get?_valueMap_eq_some_iff, ← mem_given_iff, given_operator]
  by_cases h : r.filters op = []
  · simp [h]
  · simp [h, eq_comm]

/-- One decoding gives the parameters of the map of parameters in their order, and in the text
of every filter all the colons that separate and none that is of its value. -/
theorem decode_queryString {d : Draft} {r : Request} (h : d.build = .ok r) :
    Text.Percent.decode r.queryString = .ok (Text.join "&" (r.parameters.map shown)) ∧
      (∀ name values, r.valueMap.get? name = some values ↔ (name, values) ∈ r.parameters) ∧
      ∀ op, r.valueMap.get? op.name =
          (if r.filters op = [] then none else some ((r.filters op).map Filter.wire)) ∧
        ∀ f ∈ r.filters op, f.wire.toList.count ':' = 2 * f.hops.length + 1 ∧
          Text.split ':' f.wire = Filter.hopTexts f.hops ++
            [f.field, String.ofList (escapeColons f.valueText.toList)] := by
  have hwritable := (Draft.valid_of_build h).writable
  refine ⟨?_, r.get?_valueMap_eq_some_iff, fun op => ⟨r.get?_valueMap_operator op, ?_⟩⟩
  · apply Text.Percent.decode_of_standsFor
    exact Text.Percent.StandsFor.join (by decide) fun p hp => coded_standsFor_shown hp
  · intro f hf
    exact ⟨Filter.count_colon_wire (hwritable op f hf), Filter.split_wire (hwritable op f hf)⟩

/-- A value with a colon, a ready code and characters beyond ASCII: only the three separators
of its filter are colons after decoding. -/
theorem decode_queryString_hopDraft :
    (hopDraft "50%3A:€ &=,%25😀").build = .ok (hopDraft "50%3A:€ &=,%25😀").request ∧
      Text.Percent.decode (hopDraft "50%3A:€ &=,%25😀").request.queryString =
        .ok ("type=ecu&eq=installed_in:out:name:50%3A%3A€ &=,%25😀" ++ "&gte=mileage:1500") ∧
      ∀ f ∈ (hopDraft "50%3A:€ &=,%25😀").request.filters .eq, f.wire.toList.count ':' = 3 := by
  have h : (hopDraft "50%3A:€ &=,%25😀").build = .ok (hopDraft "50%3A:€ &=,%25😀").request := by
    rfl
  obtain ⟨hdecode, _, hfilters⟩ := decode_queryString h
  refine ⟨h, hdecode.trans (congrArg Except.ok (by decide)), fun f hf => ?_⟩
  have hops : ∀ f ∈ (hopDraft "50%3A:€ &=,%25😀").request.filters .eq, f.hops.length = 1 := by
    decide
  rw [((hfilters .eq).2 f hf).1, hops f hf]

end Request

end DeviceGraph.Search
