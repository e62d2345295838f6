import DeviceGraph.Json.Printer
import DeviceGraph.Number.Reading

/-!
# Decimal texts are read back

The decimal text of a whole number writes that number, and a signed word is
read back from its text.
-/

set_option autoImplicit false

namespace DeviceGraph.Number

theorem digits?_of_isDigit (s : List Char) (h : ∀ c ∈ s, c.isDigit = true) :
    digits? s = some (s.map fun c => c.toNat - 48) := by
  induction s with
  | nil => rfl
  | cons c s ih =>
    rw [digits?, if_pos (h c (by simp)), ih (fun d hd => h d (by simp [hd]))]
    rfl

theorem ofDigits_map (s : List Char) :
    ofDigits (s.map fun c => c.toNat - 48) = Nat.ofDigitChars 10 s 0 := by
  rw [ofDigits, List.foldl_map, Nat.ofDigitChars_eq_foldl]
  rfl

theorem isDigit_of_mem_decimal {n : Nat} {c : Char} (h : c ∈ Nat.toDigits 10 n) :
    c.isDigit = true :=
  Nat.isDigit_of_mem_toDigits (by decide) (by decide) h

theorem exists_decimal_eq_cons (n : Nat) :
    ∃ c rest, Nat.toDigits 10 n = c :: rest :=
  List.exists_cons_of_ne_nil Nat.toDigits_ne_nil

theorem digits?_toDigits (n : Nat) :
    ∃ digits, digits? (Nat.toDigits 10 n) = some digits ∧ ofDigits digits = n := by
  refine ⟨_, digits?_of_isDigit _ fun c hc => isDigit_of_mem_decimal hc, ?_⟩
  rw [ofDigits_map, Nat.ofDigitChars_ten_toDigits]

theorem cutSign_toDigits (n : Nat) :
    cutSign (Nat.toDigits 10 n) = (false, Nat.toDigits 10 n) := by
  obtain ⟨c, rest, hd⟩ := exists_decimal_eq_cons n
  have hc : c.isDigit = true := isDigit_of_mem_decimal (hd ▸ List.mem_cons_self)
  rw [hd, cutSign.eq_def]
  split
  · next heq =>
    cases heq
    exact absurd hc (by decide)
  · next heq =>
    cases heq
    exact absurd hc (by decide)
  · rfl

theorem toList_decimalText (n : Int) :
    (decimalText n).toList = (if n < 0 then ['-'] else []) ++ Nat.toDigits 10 n.natAbs := by
  rw [decimalText, String.toList_ofList]

theorem cutSign_decimalText (n : Int) :
    cutSign (decimalText n).toList = (decide (n < 0), Nat.toDigits 10 n.natAbs) := by
  rw [toList_decimalText]
  by_cases h : n < 0
  · rw [if_pos h, decide_eq_true h]
    rfl
  · rw [if_neg h, decide_eq_false h]
    exact cutSign_toDigits n.natAbs

theorem int?_decimalText (n : Int) : int? (decimalText n) = some n := by
  obtain ⟨digits, hd, hn⟩ := digits?_toDigits n.natAbs
  obtain ⟨c, rest, hc⟩ := exists_decimal_eq_cons n.natAbs
  rw [hc] at hd
  simp only [int?, cutSign_decimalText, hc, hd, hn, decide_eq_true_eq]
  by_cases h : n < 0
  · rw [if_pos h]
    congr 1
    omega
  · rw [if_neg h]
    congr 1
    omega

theorem signed?_decimalText {n : Int} (h : fitsSigned n = true) :
    signed? (decimalText n) = some n := by
  rw [signed?, int?_decimalText, Option.filter_some, if_pos h]

end DeviceGraph.Number
