import DeviceGraph.Proofs.Dict
import DeviceGraph.Proofs.Number.Decimal
import DeviceGraph.Proofs.Search.Written
import Mathlib.Data.List.Basic

/-!
# Reading a request from its map of parameters

The map keeps every value whole. So it always gives back a request, with the
same types, group and filters; only the values of the filters are read anew from
their texts, and a colon stands wherever a text held `%3A`.
-/

set_option autoImplicit false

namespace DeviceGraph.Search
open Checks

/-- A value that is read back as it was: a string without a code for a colon,
or a signed word under an operator that compares by size. -/
def Filter.Kept (op : Operator) (f : Filter) : Prop :=
  if op.isRange then ∃ n : Int, Number.fitsSigned n = true ∧ f.value = .number (.whole n)
  else ∃ s : String, f.value = .string s ∧ ¬ ['%', '3', 'A'] <:+: s.toList

theorem decimalText_no_code (n : Int) : ¬ ['%', '3', 'A'] <:+: (decimalText n).toList := by
  intro h
  have hm : '%' ∈ (decimalText n).toList := h.subset (by simp)
  rw [Number.toList_decimalText, List.mem_append] at hm
  rcases hm with hm | hm
  · by_cases hn : n < 0 <;> simp [hn] at hm
  · exact absurd (Number.isDigit_of_mem_decimal hm) (by decide)

theorem Filter.reread_of_kept {op : Operator} {f : Filter} (h : f.Kept op) :
    f.reread op = f := by
  have hvalue : readValue op f.restoredText = f.value := by
    by_cases hr : op.isRange = true
    · rw [Kept, if_pos hr] at h
      obtain ⟨n, hn, hv⟩ := h
      have htext : f.valueText = decimalText n := by
        simp [valueText, hv, Json.text, Json.chars, Numeral.text]
      rw [restoredText, htext, restoreColons_of_no_code (decimalText_no_code n),
        String.ofList_toList, readValue, if_pos hr, Number.signed?_decimalText hn, hv]
    · rw [Kept, if_neg hr] at h
      obtain ⟨s, hv, hs⟩ := h
      have htext : f.valueText = s := by simp [valueText, hv]
      rw [restoredText, htext, restoreColons_of_no_code hs, String.ofList_toList, readValue,
        if_neg hr, hv]
  rw [reread, hvalue]

namespace Request

def reread (r : Request) : Request :=
  { r with filters := fun op => (r.filters op).map (Filter.reread op) }

theorem valid_reread {r : Request} (h : r.Valid) : r.reread.Valid := by
  refine ⟨?_, h.named, h.distinct, h.path, ?_⟩
  · exact h.asks.imp_right fun ⟨op, hf⟩ => ⟨op, by simpa [reread] using hf⟩
  · intro op f hf
    obtain ⟨g, hg, rfl⟩ := List.mem_map.mp hf
    exact Filter.writable_reread op (h.writable op g hg)

theorem recut_whole {r : Request} (h : r.Valid) :
    r.recut (fun value => [value]) = r.reread.draft := by
  have ht : (r.types.flatMap fun value => [value]).filter (· ≠ "") = r.types := by
    rw [List.flatMap_singleton', List.filter_eq_self]
    intro t hm
    have hne : t ≠ "" := fun he => h.named (he ▸ hm)
    simp [hne]
  have hf : ∀ op, ((r.filters op).flatMap fun f => [f.wire]).filterMap (Filter.read? op) =
      (r.filters op).map (Filter.reread op) := by
    intro op
    rw [← List.map_eq_flatMap, List.filterMap_map, List.filterMap_eq_map_iff_forall_eq_some]
    exact fun f hm => Filter.read?_wire op (h.writable op f hm)
  simp only [recut, ht, hf, draft, reread]
  cases r.ancestorPath <;> rfl

theorem cutParameters_whole (r : Request) :
    r.cutParameters (fun value => [value]) = r.parameters := by
  simp [cutParameters]

theorem ofValueMap_valueMap_of_valid {r : Request} (h : r.Valid) :
    ofValueMap r.valueMap = .ok r.reread := by
  have hp : r.valueMap.entries.Perm r.parameters := Dict.perm_ofList r.parameters r.nodup_names
  have hreadable : ∀ p ∈ r.parameters, Readable p := by
    rw [← cutParameters_whole, readable_cutParameters_iff]
    intro op f hf text ht
    rw [List.mem_singleton.mp ht, Filter.read?_wire op (h.writable op f hf)]
    rfl
  have hafter : Draft.after {} r.valueMap.entries = r.reread.draft := by
    rw [← recut_whole h, ← after_cutParameters rfl, cutParameters_whole]
    exact Draft.after_congr fun name => given_eq_of_perm hp r.nodup_names name
  have hd : r.valueMap.entries.foldlM (fun d p => Draft.apply d p.1 p.2) {} =
      .ok r.reread.draft := by
    rw [Draft.foldlM_apply_eq_ok_iff]
    exact ⟨fun p hm => hreadable p (hp.subset hm), hafter.symm⟩
  rw [ofValueMap, bind_eq_ok_iff]
  exact ⟨r.reread.draft, hd, build_draft (valid_reread h)⟩

/-- Every accepted request comes back from its map: the same request with each
value read anew, and the request itself when all values are kept. -/
theorem ofValueMap_valueMap {d : Draft} {r : Request} (h : d.build = .ok r) :
    ofValueMap r.valueMap = .ok r.reread ∧
      ((∀ op, ∀ f ∈ r.filters op, f.Kept op) → ofValueMap r.valueMap = .ok r) := by
  have hr := ofValueMap_valueMap_of_valid (Draft.valid_of_build h)
  refine ⟨hr, fun hk => ?_⟩
  have hself : r.reread = r := by
    have hf : (fun op => (r.filters op).map (Filter.reread op)) = r.filters := by
      funext op
      rw [List.map_congr_left fun f hm => Filter.reread_of_kept (hk op f hm), List.map_id']
    rw [reread, hf]
  rw [hr, hself]

def hopDraft (value : String) : Draft :=
  (((({} : Draft).withType "ecu").withType "ecu").filter .eq
    ⟨"name", .string value, [⟨"installed_in", .outgoing⟩]⟩).filter .gte
    ⟨"mileage", .number (.whole 1500), []⟩

theorem kept_hopDraft (op : Operator) : ∀ f ∈ (hopDraft "50:off").request.filters op,
    f.Kept op := by
  intro f hf
  cases op <;> simp [hopDraft, Draft.request, Draft.filter, Filters.add, Draft.withType] at hf <;>
    subst hf
  · exact ⟨"50:off", rfl, by decide⟩
  · exact ⟨1500, by decide, rfl⟩

theorem ofValueMap_hopDraft :
    (hopDraft "50%3A:off").build = .ok (hopDraft "50%3A:off").request ∧
      ofValueMap (hopDraft "50%3A:off").request.valueMap =
        .ok (hopDraft "50%3A:off").request.reread ∧
      ((hopDraft "50%3A:off").request.reread.filters .eq).map (·.value) = [.string "50::off"] ∧
      ofValueMap (hopDraft "50:off").request.valueMap = .ok (hopDraft "50:off").request := by
  have h : (hopDraft "50%3A:off").build = .ok (hopDraft "50%3A:off").request := by rfl
  have hk : (hopDraft "50:off").build = .ok (hopDraft "50:off").request := by rfl
  exact ⟨h, (ofValueMap_valueMap h).1, by decide, (ofValueMap_valueMap hk).2 kept_hopDraft⟩

end Request

end DeviceGraph.Search
