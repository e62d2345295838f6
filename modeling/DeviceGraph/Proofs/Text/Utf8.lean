import DeviceGraph.Proofs.Checks
import DeviceGraph.Text.Utf8

/-!
# UTF-8 is read back

The bytes of a character lead the reader to the same character, whatever bytes
follow. The bounds on the second byte, which shut out overlong forms and
surrogates, always hold for the bytes of a character. And nothing else is read:
within these bounds the character that is found has the bytes it was found in.
-/

set_option autoImplicit false

namespace DeviceGraph.Text.Utf8

theorem not_lt_of_high {a : UInt8} (h : 0x80 ≤ a.toNat) : ¬ a < 0x80 :=
  UInt8.not_lt.mpr (UInt8.le_iff_toNat_le.mpr h)

theorem decodeFrom_one_byte (index : Nat) {a : UInt8} (rest : List UInt8) (h : a.toNat < 0x80) :
    decodeFrom index (a :: rest) =
      (decodeFrom (index + 1) rest).map (Char.ofNat a.toNat :: ·) := by
  have ha : a < 0x80 := UInt8.lt_iff_toNat_lt.mpr h
  rw [decodeFrom.eq_def]
  simp only [ha, if_true]

theorem decodeFrom_two_bytes (index : Nat) {a b : UInt8} (rest : List UInt8)
    (hl : 0xC2 ≤ a.toNat) (hu : a.toNat ≤ 0xDF) (hb : isContinuation b = true) :
    decodeFrom index (a :: b :: rest) =
      (decodeFrom (index + 2) rest).map (twoByteChar a b :: ·) := by
  have h1 : ¬ a < 0x80 := not_lt_of_high (by omega)
  have h2 : (0xC2 ≤ a && a ≤ 0xDF) = true := by
    simp [UInt8.le_iff_toNat_le, hl, hu]
  rw [decodeFrom.eq_def]
  simp only [h1, h2, hb, if_true, if_false]

theorem decodeFrom_three_bytes (index : Nat) {a b c : UInt8} (rest : List UInt8)
    (hl : 0xE0 ≤ a.toNat) (hu : a.toNat ≤ 0xEF) (hb : isSecondOfThree a b = true)
    (hc : isContinuation c = true) :
    decodeFrom index (a :: b :: c :: rest) =
      (decodeFrom (index + 3) rest).map (threeByteChar a b c :: ·) := by
  have h1 : ¬ a < 0x80 := not_lt_of_high (by omega)
  have h2 : (0xC2 ≤ a && a ≤ 0xDF) = false := by
    simp [UInt8.le_iff_toNat_le]
    omega
  have h3 : (0xE0 ≤ a && a ≤ 0xEF) = true := by
    simp [UInt8.le_iff_toNat_le, hl, hu]
  rw [decodeFrom.eq_def]
  simp only [h1, h2, h3, hb, hc, if_true, if_false, Bool.not_true, Bool.false_eq_true]

theorem decodeFrom_four_bytes (index : Nat) {a b c d : UInt8} (rest : List UInt8)
    (hl : 0xF0 ≤ a.toNat) (hu : a.toNat ≤ 0xF4) (hb : isSecondOfFour a b = true)
    (hc : isContinuation c = true) (hd : isContinuation d = true) :
    decodeFrom index (a :: b :: c :: d :: rest) =
      (decodeFrom (index + 4) rest).map (fourByteChar a b c d :: ·) := by
  have h1 : ¬ a < 0x80 := not_lt_of_high (by omega)
  have h2 : (0xC2 ≤ a && a ≤ 0xDF) = false := by
    simp [UInt8.le_iff_toNat_le]
    omega
  have h3 : (0xE0 ≤ a && a ≤ 0xEF) = false := by
    simp [UInt8.le_iff_toNat_le]
    omega
  have h4 : (0xF0 ≤ a && a ≤ 0xF4) = true := by
    simp [UInt8.le_iff_toNat_le, hl, hu]
  rw [decodeFrom.eq_def]
  simp only [h1, h2, h3, h4, hb, hc, hd, if_true, if_false, Bool.not_true, Bool.false_eq_true]

/-! ## The bytes of a character -/

theorem toNat_ofNat_of_lt {n : Nat} (h : n < 256) : (UInt8.ofNat n).toNat = n :=
  UInt8.toNat_ofNat_of_lt' h

theorem isContinuation_ofNat {n : Nat} (h : n < 64) :
    isContinuation (UInt8.ofNat (n + 0x80)) = true := by
  have hn := toNat_ofNat_of_lt (show n + 0x80 < 256 by omega)
  simp only [isContinuation, Bool.and_eq_true, decide_eq_true_eq, UInt8.le_iff_toNat_le, hn]
  constructor
  · exact Nat.le_add_left _ _
  · exact Nat.le_of_lt_succ (by simp; omega)

theorem payload_ofNat {n : Nat} (h : n < 64) : payload (UInt8.ofNat (n + 0x80)) = n := by
  rw [payload, toNat_ofNat_of_lt (by omega)]
  omega

/-- The second byte of three is in bounds: there are no overlong forms, and no
character lies among the surrogates. -/
theorem isSecondOfThree_ofNat {v : Nat} (hl : 0x7ff < v) (hu : v ≤ 0xffff)
    (hs : v < 0xd800 ∨ 0xdfff < v) :
    isSecondOfThree (UInt8.ofNat (v / 4096 % 0x10 + 0xe0))
      (UInt8.ofNat (v / 64 % 0x40 + 0x80)) = true := by
  have ha := toNat_ofNat_of_lt (show v / 4096 % 0x10 + 0xe0 < 256 by omega)
  unfold isSecondOfThree
  by_cases h0 : UInt8.ofNat (v / 4096 % 0x10 + 0xe0) = 0xE0
  · have hv := congrArg UInt8.toNat h0
    rw [ha] at hv
    simp at hv
    rw [if_pos h0]
    simp [UInt8.le_iff_toNat_le]
    omega
  · rw [if_neg h0]
    by_cases hd : UInt8.ofNat (v / 4096 % 0x10 + 0xe0) = 0xED
    · have hv := congrArg UInt8.toNat hd
      rw [ha] at hv
      simp at hv
      rw [if_pos hd]
      simp [UInt8.le_iff_toNat_le]
      omega
    · rw [if_neg hd]
      exact isContinuation_ofNat (by omega)

theorem isSecondOfFour_ofNat {v : Nat} (hl : 0xffff < v) (hu : v < 0x110000) :
    isSecondOfFour (UInt8.ofNat (v / 262144 % 0x08 + 0xf0))
      (UInt8.ofNat (v / 4096 % 0x40 + 0x80)) = true := by
  have ha := toNat_ofNat_of_lt (show v / 262144 % 0x08 + 0xf0 < 256 by omega)
  unfold isSecondOfFour
  by_cases h0 : UInt8.ofNat (v / 262144 % 0x08 + 0xf0) = 0xF0
  · have hv := congrArg UInt8.toNat h0
    rw [ha] at hv
    simp at hv
    rw [if_pos h0]
    simp [UInt8.le_iff_toNat_le]
    omega
  · rw [if_neg h0]
    by_cases h4 : UInt8.ofNat (v / 262144 % 0x08 + 0xf0) = 0xF4
    · have hv := congrArg UInt8.toNat h4
      rw [ha] at hv
      simp at hv
      rw [if_pos h4]
      simp [UInt8.le_iff_toNat_le]
      omega
    · rw [if_neg h4]
      exact isContinuation_ofNat (by omega)

theorem decodeFrom_two_byte_char (index : Nat) {v : Nat} (rest : List UInt8) (hl : 0x7f < v)
    (hu : v ≤ 0x7ff) :
    decodeFrom index
        (UInt8.ofNat (v / 64 % 0x20 + 0xc0) :: UInt8.ofNat (v % 0x40 + 0x80) :: rest) =
      (decodeFrom (index + 2) rest).map (Char.ofNat v :: ·) := by
  have ha := toNat_ofNat_of_lt (show v / 64 % 0x20 + 0xc0 < 256 by omega)
  have hv : (v / 64 % 0x20 + 0xc0) % 32 * 64 + v % 0x40 = v := by omega
  rw [decodeFrom_two_bytes _ _ (by omega) (by omega) (isContinuation_ofNat (by omega)),
    twoByteChar, ha, payload_ofNat (by omega), hv]

theorem decodeFrom_three_byte_char (index : Nat) {v : Nat} (rest : List UInt8) (hl : 0x7ff < v)
    (hu : v ≤ 0xffff) (hs : v < 0xd800 ∨ 0xdfff < v) :
    decodeFrom index (UInt8.ofNat (v / 4096 % 0x10 + 0xe0) ::
        UInt8.ofNat (v / 64 % 0x40 + 0x80) :: UInt8.ofNat (v % 0x40 + 0x80) :: rest) =
      (decodeFrom (index + 3) rest).map (Char.ofNat v :: ·) := by
  have ha := toNat_ofNat_of_lt (show v / 4096 % 0x10 + 0xe0 < 256 by omega)
  have hv : (v / 4096 % 0x10 + 0xe0) % 16 * 4096 + v / 64 % 0x40 * 64 + v % 0x40 = v := by omega
  rw [decodeFrom_three_bytes _ _ (by omega) (by omega) (isSecondOfThree_ofNat hl hu hs)
      (isContinuation_ofNat (by omega)),
    threeByteChar, ha, payload_ofNat (by omega), payload_ofNat (by omega), hv]

theorem decodeFrom_four_byte_char (index : Nat) {v : Nat} (rest : List UInt8) (hl : 0xffff < v)
    (hu : v < 0x110000) :
    decodeFrom index (UInt8.ofNat (v / 262144 % 0x08 + 0xf0) ::
        UInt8.ofNat (v / 4096 % 0x40 + 0x80) :: UInt8.ofNat (v / 64 % 0x40 + 0x80) ::
        UInt8.ofNat (v % 0x40 + 0x80) :: rest) =
      (decodeFrom (index + 4) rest).map (Char.ofNat v :: ·) := by
  have ha := toNat_ofNat_of_lt (show v / 262144 % 0x08 + 0xf0 < 256 by omega)
  have hv : (v / 262144 % 0x08 + 0xf0) % 8 * 262144 + v / 4096 % 0x40 * 4096 +
      v / 64 % 0x40 * 64 + v % 0x40 = v := by omega
  rw [decodeFrom_four_bytes _ _ (by omega) (by omega) (isSecondOfFour_ofNat hl hu)
      (isContinuation_ofNat (by omega)) (isContinuation_ofNat (by omega)),
    fourByteChar, ha, payload_ofNat (by omega), payload_ofNat (by omega),
    payload_ofNat (by omega), hv]

theorem char_bounds (c : Char) :
    (c.val.toNat < 0xd800 ∨ 0xdfff < c.val.toNat) ∧ c.val.toNat < 0x110000 := by
  have h := c.valid
  simp only [UInt32.isValidChar, Nat.isValidChar] at h
  omega

theorem decodeFrom_encodeChar (index : Nat) (c : Char) (rest : List UInt8) :
    decodeFrom index (String.utf8EncodeChar c ++ rest) =
      (decodeFrom (index + (String.utf8EncodeChar c).length) rest).map (c :: ·) := by
  obtain ⟨hs, hmax⟩ := char_bounds c
  have hc : Char.ofNat c.val.toNat = c := Char.ofNat_toNat c
  by_cases h1 : c.val.toNat ≤ 0x7f
  · have hn := toNat_ofNat_of_lt (show c.val.toNat < 256 by omega)
    simp only [String.utf8EncodeChar, h1, if_true, List.cons_append, List.nil_append]
    rw [decodeFrom_one_byte _ _ (by omega), hn, hc]
    rfl
  · by_cases h2 : c.val.toNat ≤ 0x7ff
    · simp only [String.utf8EncodeChar, h1, h2, if_true, if_false, List.cons_append,
        List.nil_append]
      rw [decodeFrom_two_byte_char _ _ (by omega) h2, hc]
      rfl
    · by_cases h3 : c.val.toNat ≤ 0xffff
      · simp only [String.utf8EncodeChar, h1, h2, h3, if_true, if_false, List.cons_append,
          List.nil_append]
        rw [decodeFrom_three_byte_char _ _ (by omega) h3 hs, hc]
        rfl
      · simp only [String.utf8EncodeChar, h1, h2, h3, if_false, List.cons_append,
          List.nil_append]
        rw [decodeFrom_four_byte_char _ _ (by omega) hmax, hc]
        rfl

theorem decodeFrom_encode (index : Nat) (s : List Char) :
    decodeFrom index (encode s) = .ok s := by
  induction s generalizing index with
  | nil => rfl
  | cons c s ih =>
    have htail : s.flatMap String.utf8EncodeChar = encode s := rfl
    rw [encode, List.flatMap_cons, decodeFrom_encodeChar, htail, ih]
    rfl

theorem decode_encode (s : List Char) : decode (encode s) = .ok s := decodeFrom_encode 0 s

/-! ## Only encodings are read -/

theorem val_ofNat {n : Nat} (h : n < 0xd800 ∨ 0xdfff < n ∧ n < 0x110000) :
    (Char.ofNat n).val.toNat = n := by
  have hv : n.isValidChar := h
  rw [Char.ofNat, dif_pos hv]
  rfl

theorem bounds_of_between {low high a : UInt8} (h : (low ≤ a && a ≤ high) = true) :
    low.toNat ≤ a.toNat ∧ a.toNat ≤ high.toNat := by
  simpa [UInt8.le_iff_toNat_le] using h

theorem isContinuation_bounds {b : UInt8} (h : isContinuation b = true) :
    0x80 ≤ b.toNat ∧ b.toNat ≤ 0xBF := bounds_of_between h

/-- A second byte continues a character, and two first bytes bound it further: one from
below, against overlong forms, and one from above. -/
theorem second_bounds {k l low high a b : UInt8} (hkl : k ≠ l) (hlow : 0x80 ≤ low.toNat)
    (hhigh : high.toNat ≤ 0xBF)
    (h : (if a = k then low ≤ b && b ≤ 0xBF else if a = l then 0x80 ≤ b && b ≤ high
      else isContinuation b) = true) :
    0x80 ≤ b.toNat ∧ b.toNat ≤ 0xBF ∧ (a = k → low.toNat ≤ b.toNat) ∧
      (a = l → b.toNat ≤ high.toNat) := by
  by_cases hk : a = k
  · rw [if_pos hk] at h
    obtain ⟨hl, hu⟩ := bounds_of_between h
    exact ⟨Nat.le_trans hlow hl, hu, fun _ => hl, fun he => absurd (hk.symm.trans he) hkl⟩
  · rw [if_neg hk] at h
    by_cases hl : a = l
    · rw [if_pos hl] at h
      obtain ⟨hb, hu⟩ := bounds_of_between h
      exact ⟨hb, Nat.le_trans hu hhigh, fun he => absurd he hk, fun _ => hu⟩
    · rw [if_neg hl] at h
      obtain ⟨hb, hu⟩ := isContinuation_bounds h
      exact ⟨hb, hu, fun he => absurd he hk, fun he => absurd he hl⟩

/-- The second byte of three keeps the character out of the shorter forms and the surrogates. -/
theorem isSecondOfThree_bounds {a b : UInt8} (h : isSecondOfThree a b = true) :
    0x80 ≤ b.toNat ∧ b.toNat ≤ 0xBF ∧ (a.toNat = 0xE0 → 0xA0 ≤ b.toNat) ∧
      (a.toNat = 0xED → b.toNat ≤ 0x9F) := by
  obtain ⟨hl, hu, hlow, hhigh⟩ := second_bounds (by decide) (by decide) (by decide) h
  exact ⟨hl, hu, fun ha => hlow (UInt8.toNat_inj.mp ha), fun ha => hhigh (UInt8.toNat_inj.mp ha)⟩

theorem isSecondOfFour_bounds {a b : UInt8} (h : isSecondOfFour a b = true) :
    0x80 ≤ b.toNat ∧ b.toNat ≤ 0xBF ∧ (a.toNat = 0xF0 → 0x90 ≤ b.toNat) ∧
      (a.toNat = 0xF4 → b.toNat ≤ 0x8F) := by
  obtain ⟨hl, hu, hlow, hhigh⟩ := second_bounds (by decide) (by decide) (by decide) h
  exact ⟨hl, hu, fun ha => hlow (UInt8.toNat_inj.mp ha), fun ha => hhigh (UInt8.toNat_inj.mp ha)⟩

theorem ofNat_eq_of_toNat {a : UInt8} {n : Nat} (h : n = a.toNat) : UInt8.ofNat n = a := by
  rw [h, UInt8.ofNat_toNat]

theorem encodeChar_one_byte {a : UInt8} (h : a.toNat < 0x80) :
    String.utf8EncodeChar (Char.ofNat a.toNat) = [a] := by
  have hv := val_ofNat (show a.toNat < 0xd800 ∨ 0xdfff < a.toNat ∧ a.toNat < 0x110000 by omega)
  rw [String.utf8EncodeChar, hv, if_pos (by omega), UInt8.ofNat_toNat]

theorem encodeChar_twoByteChar {a b : UInt8} (hl : 0xC2 ≤ a.toNat) (hu : a.toNat ≤ 0xDF)
    (hb : isContinuation b = true) : String.utf8EncodeChar (twoByteChar a b) = [a, b] := by
  have hb := isContinuation_bounds hb
  have hv := val_ofNat (n := a.toNat % 32 * 64 + b.toNat % 64) (by omega)
  rw [twoByteChar, payload, String.utf8EncodeChar, hv, if_neg (by omega), if_pos (by omega),
    ofNat_eq_of_toNat (a := a) (by omega), ofNat_eq_of_toNat (a := b) (by omega)]

theorem encodeChar_threeByteChar {a b c : UInt8} (hl : 0xE0 ≤ a.toNat) (hu : a.toNat ≤ 0xEF)
    (hb : isSecondOfThree a b = true) (hc : isContinuation c = true) :
    String.utf8EncodeChar (threeByteChar a b c) = [a, b, c] := by
  have hb := isSecondOfThree_bounds hb
  have hc := isContinuation_bounds hc
  have hv := val_ofNat (n := a.toNat % 16 * 4096 + b.toNat % 64 * 64 + c.toNat % 64) (by omega)
  rw [threeByteChar, payload, payload, String.utf8EncodeChar, hv, if_neg (by omega),
    if_neg (by omega), if_pos (by omega), ofNat_eq_of_toNat (a := a) (by omega),
    ofNat_eq_of_toNat (a := b) (by omega), ofNat_eq_of_toNat (a := c) (by omega)]

theorem encodeChar_fourByteChar {a b c d : UInt8} (hl : 0xF0 ≤ a.toNat) (hu : a.toNat ≤ 0xF4)
    (hb : isSecondOfFour a b = true) (hc : isContinuation c = true)
    (hd : isContinuation d = true) :
    String.utf8EncodeChar (fourByteChar a b c d) = [a, b, c, d] := by
  have hb := isSecondOfFour_bounds hb
  have hc := isContinuation_bounds hc
  have hd := isContinuation_bounds hd
  have hv := val_ofNat (n := a.toNat % 8 * 262144 + b.toNat % 64 * 4096 + c.toNat % 64 * 64 +
    d.toNat % 64) (by omega)
  rw [fourByteChar, payload, payload, payload, String.utf8EncodeChar, hv, if_neg (by omega),
    if_neg (by omega), if_neg (by omega), ofNat_eq_of_toNat (a := a) (by omega),
    ofNat_eq_of_toNat (a := b) (by omega), ofNat_eq_of_toNat (a := c) (by omega),
    ofNat_eq_of_toNat (a := d) (by omega)]

/-- One more character in front of what was read is one more encoded character. -/
theorem encode_of_map_cons {result : Except Fault (List Char)} {c : Char} {s : List Char}
    {rest : List UInt8} (ih : ∀ {t}, result = .ok t → encode t = rest)
    (h : result.map (c :: ·) = .ok s) : encode s = String.utf8EncodeChar c ++ rest := by
  obtain ⟨t, ht, rfl⟩ := (Checks.map_eq_ok_iff result (c :: ·) s).mp h
  rw [← ih ht]
  rfl

/-- Whatever is read as characters is the encoding of these characters. -/
theorem encode_of_decodeFrom {index : Nat} {bytes : List UInt8} {s : List Char}
    (h : decodeFrom index bytes = .ok s) : encode s = bytes := by
  fun_induction decodeFrom index bytes generalizing s
  case case1 =>
    cases h
    rfl
  case case2 a rest ha ih =>
    rw [encode_of_map_cons ih h, encodeChar_one_byte (UInt8.lt_iff_toNat_lt.mp ha)]
    rfl
  case case4 a _ ha b rest hb ih =>
    obtain ⟨hl, hu⟩ := bounds_of_between ha
    rw [encode_of_map_cons ih h, encodeChar_twoByteChar hl hu hb]
    rfl
  case case11 a _ _ ha b c rest hb hc ih =>
    obtain ⟨hl, hu⟩ := bounds_of_between ha
    rw [encode_of_map_cons ih h, encodeChar_threeByteChar hl hu (by simpa using hb)
      (by simpa using hc)]
    rfl
  case case21 a _ _ _ ha b c d rest hb hc hd ih =>
    obtain ⟨hl, hu⟩ := bounds_of_between ha
    rw [encode_of_map_cons ih h, encodeChar_fourByteChar hl hu (by simpa using hb)
      (by simpa using hc) (by simpa using hd)]
    rfl
  -- every other case is a fault
  all_goals cases h

theorem decode_eq_ok_iff (bytes : List UInt8) (s : List Char) :
    decode bytes = .ok s ↔ encode s = bytes := by
  constructor
  · exact encode_of_decodeFrom
  · rintro rfl
    exact decode_encode s

end DeviceGraph.Text.Utf8
