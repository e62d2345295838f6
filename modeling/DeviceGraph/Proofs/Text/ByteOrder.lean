import DeviceGraph.Proofs.Text.Utf8

/-!
# The order of bytes

Texts stand in the order of their characters, and so do their bytes: the first byte of a
character tells how many bytes it has, more for larger characters, and every byte carries
higher digits of the character than the bytes behind it.
-/

set_option autoImplicit false

namespace DeviceGraph.Text.Utf8

theorem ofNat_cons_lt {m n : Nat} {s t : List UInt8} (hm : m < 256) (hn : n < 256)
    (h : m < n ∨ m = n ∧ s < t) : UInt8.ofNat m :: s < UInt8.ofNat n :: t := by
  rw [List.cons_lt_cons_iff, UInt8.lt_iff_toNat_lt, toNat_ofNat_of_lt hm, toNat_ofNat_of_lt hn]
  rcases h with h | ⟨rfl, h⟩
  · exact .inl h
  · exact .inr ⟨rfl, h⟩

/-- A continuation byte decides between numbers that agree in their higher digits. -/
theorem continuation_lt {v w : Nat} {s t : List UInt8} (h : v < w ∨ v = w ∧ s < t) :
    v / 64 < w / 64 ∨ v / 64 = w / 64 ∧
      UInt8.ofNat (v % 0x40 + 0x80) :: s < UInt8.ofNat (w % 0x40 + 0x80) :: t := by
  by_cases hd : v / 64 < w / 64
  · exact .inl hd
  · refine .inr ⟨by omega, ofNat_cons_lt (by omega) (by omega) ?_⟩
    rcases h with h | ⟨rfl, h⟩
    · exact .inl (by omega)
    · exact .inr ⟨rfl, h⟩

/-- The bytes of a smaller character come first, whatever stands behind them. -/
theorem encodeChar_append_lt {c d : Char} (h : c < d) (s t : List UInt8) :
    String.utf8EncodeChar c ++ s < String.utf8EncodeChar d ++ t := by
  have hv : c.val.toNat < d.val.toNat := UInt32.lt_iff_toNat_lt.mp h
  have hmax := (char_bounds d).2
  have hlast := continuation_lt (s := s) (t := t) (.inl hv)
  have hlastTwo := continuation_lt hlast
  have hlastThree := continuation_lt hlastTwo
  simp only [Nat.div_div_eq_div_mul, Nat.reduceMul] at hlastTwo hlastThree
  simp only [String.utf8EncodeChar]
  split_ifs
  all_goals
    simp only [List.cons_append, List.nil_append]
    refine ofNat_cons_lt (by omega) (by omega) ?_
  -- the first byte decides, unless both characters have two, three or four bytes
  any_goals
    left
    omega
  · exact hlast.imp (by omega) (And.imp_left (by omega))
  · exact hlastTwo.imp (by omega) (And.imp_left (by omega))
  · exact hlastThree.imp (by omega) (And.imp_left (by omega))

theorem encode_lt_encode {s t : List Char} (h : s < t) : encode s < encode t := by
  induction h with
  | @nil d t =>
    obtain ⟨first, rest, hd⟩ := List.exists_cons_of_ne_nil (String.utf8EncodeChar_ne_nil (c := d))
    rw [encode, encode, List.flatMap_cons, hd]
    exact List.nil_lt_cons _ _
  | rel h => exact encodeChar_append_lt h _ _
  | cons _ ih => exact List.append_left_lt ih

/-- Texts stand in the order of their bytes. -/
theorem encode_le_encode_iff (s t : String) : encode s.toList ≤ encode t.toList ↔ s ≤ t := by
  constructor
  · intro h
    rw [← String.not_lt]
    exact fun hlt => List.not_lt.mpr h (encode_lt_encode hlt)
  · intro h
    rcases List.le_iff_lt_or_eq.mp h with hlt | heq
    · exact List.le_of_lt (encode_lt_encode hlt)
    · rw [heq]
      exact List.le_refl _

end DeviceGraph.Text.Utf8
