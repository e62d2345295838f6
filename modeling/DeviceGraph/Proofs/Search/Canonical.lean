import DeviceGraph.Proofs.Number.Decimal
import DeviceGraph.Proofs.Search.Grammar

/-!
# A filter that was read is written again

A text that is read as a filter holds a code wherever the value has a colon, so writing the
filter puts back the same codes between the same colons. Only a number need not be written
as it was read.
-/

set_option autoImplicit false

namespace DeviceGraph.Search

/-- What is restored in a text without colons was a code before. -/
theorem escapeColons_restoreColons {s : List Char} (h : ':' ∉ s) :
    escapeColons (restoreColons s) = s := by
  induction s using restoreColons.induct with
  | case1 rest ih =>
    have hrest : ':' ∉ rest := fun hm => h (by simp [hm])
    rw [restoreColons, show escapeColons (':' :: restoreColons rest) =
      '%' :: '3' :: 'A' :: escapeColons (restoreColons rest) from rfl, ih hrest]
  | case2 c rest hne ih =>
    obtain ⟨hc, hrest⟩ := not_or.mp (mt List.mem_cons.mpr h)
    have hcode : ∀ tail, c :: rest ≠ '%' :: '3' :: 'A' :: tail := by
      intro tail heq
      obtain ⟨hfirst, hr⟩ := List.cons.inj heq
      exact hne tail hfirst hr
    have hkeep : escapeColons (c :: restoreColons rest) = c :: escapeColons (restoreColons rest) := by
      simp [escapeColons, Ne.symm hc]
    rw [restoreColons_cons_of_not_code hcode, hkeep, ih hrest]
  | case3 => rfl

namespace Filter

def unescapedValue (text : String) : String :=
  String.ofList (restoreColons ((Text.split ':' text).getLastD "").toList)

/-- An operator that compares by size keeps the texts that are no number and the decimal texts
of signed words; any other operator keeps every text. -/
def KeepsText (op : Operator) (text : String) : Prop :=
  op.isRange = true → (Number.signed? text = none ∧ Number.finite? text = none) ∨
    ∃ n : Int, Number.fitsSigned n = true ∧ text = decimalText n

theorem readValue_decimalText {op : Operator} (hr : op.isRange = true) {n : Int}
    (hn : Number.fitsSigned n = true) : readValue op (decimalText n) = .number (.whole n) := by
  rw [readValue, if_pos hr, Number.signed?_decimalText hn]

theorem valueText_of_keepsText {op : Operator} {text : String} (h : KeepsText op text)
    {f : Filter} (hf : f.value = readValue op text) : f.valueText = text := by
  by_cases hr : op.isRange = true
  · rcases h hr with ⟨hsigned, hfinite⟩ | ⟨n, hn, rfl⟩
    · rw [readValue, if_pos hr, hsigned, hfinite] at hf
      rw [valueText, hf]
    · rw [readValue_decimalText hr hn] at hf
      rw [valueText, hf]
      simp [Json.text, Json.chars, Numeral.text]
  · rw [readValue, if_neg hr] at hf
    rw [valueText, hf]

/-- A filter whose value text is the one that it was read from is written as it was read. -/
theorem wire_eq_of_valueText {op : Operator} {text : String} {f : Filter}
    (h : ofWire op text = .ok f) (hv : f.valueText = unescapedValue text) : f.wire = text := by
  have hread := (ofWire_eq_ok_iff op text f).mp h
  obtain ⟨value, hparts, _, _⟩ := (ofParts?_eq_some_iff op _ f).mp hread
  have hlast : unescapedValue text = String.ofList (restoreColons value.toList) := by
    rw [unescapedValue, hparts]
    simp
  have hcolon : ':' ∉ value.toList := by
    apply Text.not_mem_of_mem_split (s := text)
    rw [hparts]
    simp
  rw [wire_eq, hv, hlast, String.toList_ofList, escapeColons_restoreColons hcolon,
    String.ofList_toList, List.append_assoc, List.singleton_append, ← hparts,
    Text.join_split rfl]

theorem wire_of_keepsText {op : Operator} {text : String} {f : Filter}
    (h : ofWire op text = .ok f) (hk : KeepsText op (unescapedValue text)) : f.wire = text := by
  have hread := (ofWire_eq_ok_iff op text f).mp h
  obtain ⟨value, hparts, hvalue, _⟩ := (ofParts?_eq_some_iff op _ f).mp hread
  apply wire_eq_of_valueText h
  apply valueText_of_keepsText hk
  rw [unescapedValue, hparts, hvalue]
  simp

/-- A filter is written as it was read, and so there is no second text that it is read from,
under this or another operator, unless numbers are read. -/
theorem wire_ofWire {op : Operator} {text : String} {f : Filter} (h : ofWire op text = .ok f)
    (hk : KeepsText op (unescapedValue text)) :
    f.wire = text ∧ ∀ (op' : Operator) (other : String), ofWire op' other = .ok f →
      KeepsText op' (unescapedValue other) → other = text := by
  have hwire := wire_of_keepsText h hk
  refine ⟨hwire, fun op' other hother hk' => ?_⟩
  rw [← wire_of_keepsText hother hk', hwire]

/-- A value with a colon between halves of codes, behind two hops, and the least signed word. -/
theorem wire_ofWire_halves :
    (∃ f, ofWire .eq "near:in:part:out:name:50%3%3AA%3" = .ok f ∧
      f.value = .string "50%3:A%3" ∧ f.wire = "near:in:part:out:name:50%3%3AA%3") ∧
    ∃ f, ofWire .gte "mileage:-9223372036854775808" = .ok f ∧
      f.value = .number (.whole (-9223372036854775808)) ∧
      KeepsText .gte (unescapedValue "mileage:-9223372036854775808") ∧
      f.wire = "mileage:-9223372036854775808" := by
  have hfits : Number.fitsSigned (-9223372036854775808) = true := by decide
  have hword : KeepsText .gte (unescapedValue "mileage:-9223372036854775808") := by
    intro _
    exact .inr ⟨-9223372036854775808, hfits, by decide⟩
  have hnear : ofWire .eq "near:in:part:out:name:50%3%3AA%3" =
      .ok { hops := [⟨"near", .incoming⟩, ⟨"part", .outgoing⟩], field := "name",
            value := .string "50%3:A%3" } := by
    apply (ofWire_eq_ok_iff _ _ _).mpr
    apply (ofParts?_eq_some_iff _ _ _).mpr
    refine ⟨"50%3%3AA%3", by decide, ?_, by decide⟩
    rw [readValue, if_neg (by decide)]
    exact congrArg Json.string (by decide)
  have hleast : ofWire .gte "mileage:-9223372036854775808" =
      .ok { hops := [], field := "mileage", value := .number (.whole (-9223372036854775808)) } := by
    have htext : String.ofList (restoreColons "-9223372036854775808".toList) =
        decimalText (-9223372036854775808) := by decide
    apply (ofWire_eq_ok_iff _ _ _).mpr
    apply (ofParts?_eq_some_iff _ _ _).mpr
    refine ⟨"-9223372036854775808", by decide, ?_, by simp⟩
    rw [htext, readValue_decimalText rfl hfits]
  exact ⟨⟨_, hnear, rfl, (wire_ofWire hnear fun hr => absurd hr (by decide)).1⟩,
    _, hleast, rfl, hword, (wire_ofWire hleast hword).1⟩

end Filter

end DeviceGraph.Search
