import DeviceGraph.Proofs.Number.Decimal
import Mathlib.Data.List.TakeWhile

/-!
# Whole numbers as doubles

A text of decimal digits is also a real number, and it is read as the double that the whole
number is rounded to. Of a number with more than 53 bits the double keeps the upper 53: it is
the nearest multiple of the unit in their last place, a tie going to the even one.
-/

set_option autoImplicit false

namespace DeviceGraph

namespace Double

/-! ## Rounding -/

theorem roundQuotient_mul_right (num den : Nat) {c : Nat} (hc : 0 < c) :
    roundQuotient (num * c) (den * c) = roundQuotient num den := by
  have hscale : ∀ a b : Nat, a * c < 2 * (b * c) ↔ a < 2 * b := fun a b => by
    rw [← Nat.mul_assoc, Nat.mul_lt_mul_right hc]
  have htie : ∀ a b : Nat, 2 * (a * c) = b * c ↔ 2 * a = b := fun a b => by
    rw [← Nat.mul_assoc, Nat.mul_right_cancel_iff hc]
  simp only [roundQuotient, Nat.mul_div_mul_right _ _ hc, Nat.mul_mod_mul_right, hscale, htie]

theorem roundQuotient_le (num den : Nat) : roundQuotient num den ≤ num / den + 1 := by
  unfold roundQuotient
  dsimp only
  split <;> omega

/-- A quotient of more than 53 bits is rounded to a multiple of the unit in the last place that
53 bits leave. -/
theorem exists_ofUnits? {num den e : Nat} (hlow : Nat.pow 2 (52 + e) ≤ num / den)
    (hhigh : num / den < Nat.pow 2 (53 + e)) (hpos : 0 < e) (he : e ≤ 2044) :
    ∃ x, ofUnits? num den = some x ∧ x.negative = false ∧
      x.units = roundQuotient num (den * Nat.pow 2 e) * Nat.pow 2 e := by
  have hunit : num / den / 2 ^ e < 2 ^ 53 := by
    rw [Nat.div_lt_iff_lt_mul (Nat.two_pow_pos e), ← Nat.pow_add]
    exact hhigh
  have hlarge : ¬ num / den < Nat.pow 2 53 := by
    have hle : 2 ^ 53 ≤ 2 ^ (52 + e) := Nat.pow_le_pow_right (by decide) (by omega)
    exact Nat.not_lt.mpr (Nat.le_trans hle hlow)
  have hnonzero : num / den ≠ 0 :=
    Nat.ne_of_gt (Nat.lt_of_lt_of_le (Nat.two_pow_pos (52 + e)) hlow)
  have hlog2 : Nat.log2 (num / den) = 52 + e :=
    (Nat.log2_eq_iff hnonzero).mpr ⟨hlow, by rwa [Nat.add_right_comm]⟩
  have hlog : Nat.log2 (num / den) - 52 = e := by omega
  have hround : roundQuotient num (den * Nat.pow 2 e) ≤ Nat.pow 2 53 := by
    refine Nat.le_trans (roundQuotient_le _ _) ?_
    rw [← Nat.div_div_eq_div_mul]
    exact hunit
  simp only [ofUnits?, if_neg hlarge, hlog]
  by_cases hm : roundQuotient num (den * Nat.pow 2 e) < Nat.pow 2 53
  · rw [if_pos hm, if_pos (by dsimp only; omega)]
    exact ⟨_, rfl, rfl, rfl⟩
  · -- rounding up gave one bit more, so that the last bit is dropped
    rw [if_neg hm, if_pos (by dsimp only; omega), Nat.le_antisymm hround (Nat.not_lt.mp hm)]
    refine ⟨_, rfl, rfl, ?_⟩
    show 2 ^ 52 * 2 ^ (e + 1) = 2 ^ 53 * 2 ^ e
    rw [Nat.pow_succ]
    omega

/-- A whole number of more than 53 bits is rounded in the same way on every grid below it. -/
theorem exists_ofUnits?_scaled {n e k : Nat} (hlow : Nat.pow 2 (52 + e) ≤ n)
    (hhigh : n < Nat.pow 2 (53 + e)) (hpos : 0 < e) (he : e + k ≤ 2044) :
    ∃ x, ofUnits? (n * Nat.pow 2 k) 1 = some x ∧ x.negative = false ∧
      x.units = roundQuotient n (Nat.pow 2 e) * Nat.pow 2 e * Nat.pow 2 k := by
  have hadd : ∀ m, Nat.pow 2 (m + k) = Nat.pow 2 m * Nat.pow 2 k := fun m => Nat.pow_add 2 m k
  have hk : 0 < Nat.pow 2 k := Nat.two_pow_pos k
  have hlow' : Nat.pow 2 (52 + (e + k)) ≤ n * Nat.pow 2 k / 1 := by
    rw [Nat.div_one, ← Nat.add_assoc, hadd]
    exact Nat.mul_le_mul_right _ hlow
  have hhigh' : n * Nat.pow 2 k / 1 < Nat.pow 2 (53 + (e + k)) := by
    rw [Nat.div_one, ← Nat.add_assoc, hadd]
    exact Nat.mul_lt_mul_of_pos_right hhigh hk
  obtain ⟨x, hx, hsign, hunits⟩ := exists_ofUnits? hlow' hhigh' (Nat.add_pos_left hpos k) he
  refine ⟨x, hx, hsign, ?_⟩
  rw [hunits, Nat.one_mul, hadd, roundQuotient_mul_right n _ hk, ← Nat.mul_assoc]

/-- A whole number of 64 bits keeps its upper 53. -/
theorem exists_ofQuotient?_of_word {n : Nat} (hlow : Number.half64 ≤ n)
    (hhigh : n < Number.word64) : ∃ x, ofQuotient? n 1 = some x ∧ x.negative = false ∧
      x.units = roundQuotient n 2048 * 2048 * unitsOfOne := by
  have hbits : Nat.pow 2 (52 + 11) ≤ n ∧ n < Nat.pow 2 (53 + 11) := ⟨hlow, hhigh⟩
  obtain ⟨k, hone, hk⟩ : ∃ k, unitsOfOne = Nat.pow 2 k ∧ 11 + k ≤ 2044 := by
    refine ⟨1074, ?_, by decide⟩
    -- unfolded without its equation, whose check would evaluate the power
    delta unitsOfOne
    rfl
  have hscaled := exists_ofUnits?_scaled hbits.1 hbits.2 (by decide) hk
  rw [← hone] at hscaled
  exact hscaled

end Double

namespace Number

/-! ## Digits as a real number -/

/-- Digits alone are a real number without a fraction and without an exponent. -/
theorem unsignedReal?_of_digits (negative : Bool) {s : List Char} (hs : s ≠ [])
    (hd : ∀ c ∈ s, c.isDigit = true) : unsignedReal? negative s =
      some (ofDecimal negative (s.map fun c => c.toNat - 48) 0) := by
  have hmark : ∀ c ∈ s, (c ≠ 'e' ∧ c ≠ 'E') ∧ c ≠ '.' := by
    intro c hc
    refine ⟨⟨?_, ?_⟩, ?_⟩ <;> rintro rfl <;> exact absurd (hd _ hc) (by decide)
  have hmantissa : s.takeWhile (fun c => c ≠ 'e' ∧ c ≠ 'E') = s :=
    List.takeWhile_eq_self_iff.mpr fun c hc => decide_eq_true (hmark c hc).1
  have hexponent : s.dropWhile (fun c => c ≠ 'e' ∧ c ≠ 'E') = [] :=
    List.dropWhile_eq_nil_iff.mpr fun c hc => decide_eq_true (hmark c hc).1
  have hwhole : s.takeWhile (· ≠ '.') = s :=
    List.takeWhile_eq_self_iff.mpr fun c hc => decide_eq_true (hmark c hc).2
  have hfraction : s.dropWhile (· ≠ '.') = [] :=
    List.dropWhile_eq_nil_iff.mpr fun c hc => decide_eq_true (hmark c hc).2
  rw [unsignedReal?, hmantissa, hexponent, hwhole, hfraction, digits?_of_isDigit s hd]
  simp [digits?, hs]

theorem toLower_of_isDigit {c : Char} (h : c.isDigit = true) : c.toLower = c := by
  have hle : c.val ≤ '9'.val := by
    simp only [Char.isDigit, Bool.and_eq_true, decide_eq_true_eq] at h
    exact h.2
  have hupper : ¬ ('A'.val ≤ c.val ∧ c.val ≤ 'Z'.val) :=
    fun hc => absurd (UInt32.le_trans hc.1 hle) (by decide)
  exact dif_neg hupper

/-- The text of a whole number is never one of the words for infinity or for no number. -/
theorem real?_decimalText (n : Int) : real? (decimalText n) =
    some (ofDecimal (decide (n < 0)) ((Nat.toDigits 10 n.natAbs).map fun c => c.toNat - 48) 0) := by
  have hdigits : ∀ c ∈ Nat.toDigits 10 n.natAbs, c.isDigit = true :=
    fun c hc => isDigit_of_mem_decimal hc
  have hreal := unsignedReal?_of_digits (decide (n < 0)) Nat.toDigits_ne_nil hdigits
  obtain ⟨c, rest, hc⟩ := exists_decimal_eq_cons n.natAbs
  have hfirst : c.isDigit = true := hdigits c (hc ▸ List.mem_cons_self)
  have hletter : c ≠ 'i' ∧ c ≠ 'n' := by
    constructor <;> rintro rfl <;> exact absurd hfirst (by decide)
  simp only [real?, cutSign_decimalText, hreal]
  simp [hc, toLower_of_isDigit hfirst, hletter]

/-! ## Words of 64 bits -/

theorem ofDigits_dropZeros (digits : List Nat) :
    ofDigits (digits.dropWhile (· == 0)) = ofDigits digits := by
  induction digits with
  | nil => rfl
  | cons d digits ih =>
    rw [List.dropWhile_cons]
    split
    · next hd =>
      rw [ih, eq_of_beq hd]
      rfl
    · rfl

/-- A whole number between the signed and the unsigned limit is read as the double that keeps its
upper 53 bits. -/
theorem exists_finite?_decimalText {n : Int} (hlow : (half64 : Int) ≤ n)
    (hhigh : fitsUnsigned n = true) : ∃ x, finite? (decimalText n) = some x ∧
      x.negative = false ∧
      x.units = Double.roundQuotient n.toNat 2048 * 2048 * Double.unitsOfOne := by
  obtain ⟨m, rfl⟩ : ∃ m : Nat, n = m := ⟨n.toNat, by unfold half64 at hlow; omega⟩
  have hm : half64 ≤ m := by omega
  have hword : m < word64 := by
    simp only [fitsUnsigned, Bool.and_eq_true, decide_eq_true_eq] at hhigh
    omega
  let digits := (Nat.toDigits 10 m).map fun c => c.toNat - 48
  let significant := digits.dropWhile (· == 0)
  have hvalue : ofDigits significant = m := by
    rw [ofDigits_dropZeros, ofDigits_map, Nat.ofDigitChars_ten_toDigits]
  have hsome : significant ≠ [] := by
    intro hnone
    rw [hnone] at hvalue
    exact absurd (hvalue ▸ hm) (by decide)
  have hlength : significant.length ≤ 20 := by
    refine Nat.le_trans (List.length_dropWhile_le _ _) ?_
    rw [List.length_map, Nat.length_toDigits_le_iff (by decide) (by decide)]
    exact Nat.lt_trans hword (by decide)
  obtain ⟨x, hx, hsign, hunits⟩ := Double.exists_ofQuotient?_of_word hm hword
  have hdecimal : ofDecimal false digits 0 = .finite (x.withSign false) := by
    have hsize : ¬ ((significant.length : Int) + 0 < -330) := by omega
    have hfits : ¬ (310 < (significant.length : Int) + 0) := by omega
    have hone : Nat.pow 10 (0 : Int).toNat = 1 ∧ Nat.pow 10 (-0 : Int).toNat = 1 := ⟨rfl, rfl⟩
    simp only [ofDecimal]
    rw [if_neg (not_or.mpr ⟨hsome, hsize⟩), if_neg hfits, hone.1, hone.2, hvalue, Nat.mul_one, hx]
  refine ⟨x.withSign false, ?_, rfl, hunits⟩
  have hsign' : decide ((m : Int) < 0) = false := decide_eq_false (by omega)
  rw [finite?, real?_decimalText, hsign', Int.natAbs_natCast, hdecimal]

end Number

end DeviceGraph
