import DeviceGraph.Proofs.Checks
import DeviceGraph.Proofs.Distinct
import DeviceGraph.Search.Request

/-!
# What an accepted request guarantees

The checks of a filter and of a draft are restated as properties of the data.
A request that was built is valid, and every valid request can be built.
-/

set_option autoImplicit false

namespace DeviceGraph.Search
open Checks

def PlainName (name : String) : Prop := name ≠ "" ∧ ':' ∉ name.toList ∧ ',' ∉ name.toList

namespace Filter

def WritableValue : Json → Prop
  | .string s => s ≠ ""
  | .number _ | .bool _ => True
  | _ => False

structure Writable (f : Filter) : Prop where
  field : PlainName f.field
  value : WritableValue f.value
  relations : ∀ hop ∈ f.hops, PlainName hop.relation
  directions : ∀ hop ∈ f.hops, hop.direction ≠ .both

theorem checkName_eq_ok_iff (name : String) :
    checkName name = .ok () ↔ ':' ∉ name.toList ∧ ',' ∉ name.toList := by
  rw [← not_or]
  by_cases h : ':' ∈ name.toList ∨ ',' ∈ name.toList
  · rw [checkName, if_pos h]
    simp [h]
  · rw [checkName, if_neg h]
    simp [h]

theorem checkValue_eq_ok_iff (field : String) (value : Json) :
    checkValue field value = .ok () ↔ WritableValue value := by
  cases value with
  | string s => by_cases h : s = "" <;> simp [checkValue, WritableValue, h]
  | null => simp [checkValue, WritableValue]
  | bool b => simp [checkValue, WritableValue]
  | number n => simp [checkValue, WritableValue]
  | array items => simp [checkValue, WritableValue]
  | object members => simp [checkValue, WritableValue]

theorem checkHop_eq_ok_iff (hop : Hop) :
    checkHop hop = .ok () ↔ PlainName hop.relation ∧ hop.direction ≠ .both := by
  by_cases hr : hop.relation = "" <;> by_cases hd : hop.direction = .both <;>
    simp [checkHop, PlainName, hr, hd, checkName_eq_ok_iff]

theorem check_eq_ok_iff (f : Filter) : f.check = .ok () ↔ f.Writable := by
  have hfield : f.check = .ok () ↔ PlainName f.field ∧ WritableValue f.value ∧
      ∀ hop ∈ f.hops, PlainName hop.relation ∧ hop.direction ≠ .both := by
    by_cases hf : f.field = "" <;>
      simp [check, PlainName, hf, checkName_eq_ok_iff, checkValue_eq_ok_iff, checkHop_eq_ok_iff]
  rw [hfield]
  constructor
  · rintro ⟨hn, hv, hh⟩
    exact ⟨hn, hv, fun hop hm => (hh hop hm).1, fun hop hm => (hh hop hm).2⟩
  · intro h
    exact ⟨h.field, h.value, fun hop hm => ⟨h.relations hop hm, h.directions hop hm⟩⟩

end Filter

namespace Filters

theorem mem_toList (filters : Filters) (op : Operator) (f : Filter) :
    (op, f) ∈ filters.toList ↔ f ∈ filters op := by
  simp [toList, Operator.mem_all]

theorem toList_eq_nil_iff (filters : Filters) :
    filters.toList = [] ↔ ∀ op, filters op = [] := by
  simp [toList, Operator.mem_all]

end Filters

structure Request.Valid (r : Request) : Prop where
  asks : r.types ≠ [] ∨ ∃ op, r.filters op ≠ []
  named : "" ∉ r.types
  distinct : r.types.Nodup
  path : r.ancestorPath ≠ some ""
  writable : ∀ op, ∀ f ∈ r.filters op, f.Writable

namespace Draft

structure Complete (d : Draft) : Prop where
  asks : d.types ≠ [] ∨ ∃ op, d.filters op ≠ []
  named : "" ∉ d.types
  writable : ∀ op, ∀ f ∈ d.filters op, f.Writable

def request (d : Draft) : Request where
  types := d.types.eraseDups
  ancestorPath := d.ancestorPath.filter (· ≠ "")
  summarize := d.summarize
  filters := d.filters

theorem checks_eq_ok_iff (d : Draft) :
    forM d.filters.toList (fun entry : Operator × Filter => entry.2.check) = .ok () ↔
      ∀ op, ∀ f ∈ d.filters op, f.Writable := by
  rw [Checks.forM_eq_ok_iff]
  constructor
  · intro h op f hf
    exact (Filter.check_eq_ok_iff f).mp (h (op, f) ((Filters.mem_toList _ _ _).mpr hf))
  · rintro h ⟨op, f⟩ hf
    exact (Filter.check_eq_ok_iff f).mpr (h op f ((Filters.mem_toList _ _ _).mp hf))

theorem build_eq_ok_iff (d : Draft) (r : Request) :
    d.build = .ok r ↔ d.Complete ∧ r = d.request := by
  have hasks : ¬ (d.types = [] ∧ d.filters.toList = []) ↔
      d.types ≠ [] ∨ ∃ op, d.filters op ≠ [] := by
    rw [Filters.toList_eq_nil_iff, Classical.not_and_iff_not_or_not, Classical.not_forall]
  by_cases ha : d.types = [] ∧ d.filters.toList = []
  · have hb : d.build = .error .emptyRequest := by
      rw [build, if_pos ha]
      rfl
    rw [hb]
    constructor
    · intro h
      cases h
    · rintro ⟨hc, _⟩
      exact absurd ha (hasks.mpr hc.asks)
  · by_cases hn : "" ∈ d.types
    · have hb : d.build = .error (.malformedFilter "empty type") := by
        rw [build, if_neg ha, if_pos hn]
        rfl
      rw [hb]
      constructor
      · intro h
        cases h
      · rintro ⟨hc, _⟩
        exact absurd hn hc.named
    · have hb : d.build = .ok r ↔ (∀ op, ∀ f ∈ d.filters op, f.Writable) ∧ d.request = r := by
        rw [← checks_eq_ok_iff]
        simp [build, ha, hn, request, -forM_eq_ok_iff]
      rw [hb, eq_comm]
      constructor
      · rintro ⟨hw, hr⟩
        exact ⟨⟨hasks.mp ha, hn, hw⟩, hr⟩
      · rintro ⟨hc, hr⟩
        exact ⟨hc.writable, hr⟩

theorem valid_of_build {d : Draft} {r : Request} (h : d.build = .ok r) : r.Valid := by
  obtain ⟨hc, rfl⟩ := (build_eq_ok_iff d r).mp h
  refine ⟨?_, ?_, nodup_eraseDups d.types, ?_, hc.writable⟩
  · refine hc.asks.imp (fun ht he => ht ?_) id
    cases hd : d.types with
    | nil => rfl
    | cons t rest => simp [request, hd, List.eraseDups_cons] at he
  · exact fun hm => hc.named (List.mem_eraseDups.mp hm)
  · intro hp
    obtain ⟨_, hne⟩ := Option.filter_eq_some_iff.mp hp
    simp at hne

end Draft

namespace Request

def draft (r : Request) : Draft where
  types := r.types
  ancestorPath := r.ancestorPath
  summarize := r.summarize
  filters := r.filters

theorem build_draft {r : Request} (h : r.Valid) : r.draft.build = .ok r := by
  rw [Draft.build_eq_ok_iff]
  refine ⟨⟨h.asks, h.named, h.writable⟩, ?_⟩
  have ht : r.types.eraseDups = r.types := eraseDups_of_nodup h.distinct
  have hp : r.ancestorPath.filter (· ≠ "") = r.ancestorPath := by
    cases hr : r.ancestorPath with
    | none => rfl
    | some path =>
      have hne : path ≠ "" := fun he => h.path (he ▸ hr)
      simp [hne]
  simp only [Draft.request, draft, ht, hp]

end Request

end DeviceGraph.Search
