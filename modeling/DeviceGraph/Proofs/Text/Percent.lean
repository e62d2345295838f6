import DeviceGraph.Proofs.Text.Pieces
import DeviceGraph.Proofs.Text.Utf8
import DeviceGraph.Text.Percent

/-!
# Percent codes are read back

Every text comes back from its percent codes. A coded text is made of plain
characters and percent signs only, so it holds none of the marks that cut a
query string.
-/

set_option autoImplicit false

namespace DeviceGraph.Text.Percent

theorem isPlain_hexDigit {n : Nat} (h : n < 16) : isPlain (hexDigit n) = true := by
  have digits : ∀ m : Fin 16, isPlain (hexDigit m) = true := by decide
  exact digits ⟨n, h⟩

theorem bytes_cons_of_ne {c : Char} (h : c ≠ '%') (rest : List Char) :
    bytes (c :: rest) = String.utf8EncodeChar c ++ bytes rest := by
  rw [bytes.eq_def]
  split
  · next heq => cases heq
  · next heq =>
    cases heq
    exact absurd rfl h
  · next heq =>
    cases heq
    rfl

theorem bytes_encodeByte (b : UInt8) (rest : List Char) :
    bytes (encodeByte b ++ rest) = b :: bytes rest := by
  have hb := b.toNat_lt
  have hn : b.toNat / 16 * 16 + b.toNat % 16 = b.toNat := by omega
  rw [encodeByte, List.cons_append, List.cons_append, List.cons_append, List.nil_append, bytes,
    hexValue?_hexDigit _ (by omega), hexValue?_hexDigit _ (by omega)]
  simp only [hn, UInt8.ofNat_toNat]

theorem bytes_encodeBytes (bs : List UInt8) (rest : List Char) :
    bytes (bs.flatMap encodeByte ++ rest) = bs ++ bytes rest := by
  induction bs with
  | nil => rfl
  | cons b bs ih =>
    rw [List.flatMap_cons, List.append_assoc, bytes_encodeByte, ih]
    rfl

theorem bytes_encodeChar (c : Char) (rest : List Char) :
    bytes (encodeChar c ++ rest) = String.utf8EncodeChar c ++ bytes rest := by
  by_cases h : isPlain c = true
  · have hne : c ≠ '%' := by
      rintro rfl
      exact absurd h (by decide)
    rw [encodeChar, if_pos h]
    exact bytes_cons_of_ne hne rest
  · rw [encodeChar, if_neg h, bytes_encodeBytes]

/-- A code stands for a text when its bytes are those of the text, whatever is written after it. -/
def StandsFor (code text : List Char) : Prop :=
  ∀ rest, bytes (code ++ rest) = Utf8.encode text ++ bytes rest

theorem StandsFor.nil : StandsFor [] [] := fun _ => rfl

theorem StandsFor.append {code code' text text' : List Char} (h : StandsFor code text)
    (h' : StandsFor code' text') : StandsFor (code ++ code') (text ++ text') := by
  intro rest
  rw [List.append_assoc, h, h', ← List.append_assoc, Utf8.encode, Utf8.encode, Utf8.encode,
    List.flatMap_append]

/-- Without a percent sign a text stands for itself. -/
theorem StandsFor.plain {s : List Char} (h : '%' ∉ s) : StandsFor s s := by
  induction s with
  | nil => exact .nil
  | cons c s ih =>
    obtain ⟨hc, hs⟩ := not_or.mp (mt List.mem_cons.mpr h)
    intro rest
    rw [List.cons_append, bytes_cons_of_ne (Ne.symm hc), ih hs, ← List.append_assoc]
    rfl

theorem StandsFor.encode (s : List Char) : StandsFor (s.flatMap encodeChar) s := by
  induction s with
  | nil => exact .nil
  | cons c s ih =>
    intro rest
    rw [List.flatMap_cons, List.append_assoc, bytes_encodeChar, ih, ← List.append_assoc]
    rfl

theorem bytes_of_standsFor {code text : List Char} (h : StandsFor code text) :
    bytes code = Utf8.encode text := by
  simpa [bytes] using h []

theorem bytes_encode (s : List Char) : bytes (s.flatMap encodeChar) = Utf8.encode s :=
  bytes_of_standsFor (.encode s)

theorem decode_encode (s : String) : decode (encode s) = .ok s := by
  rw [decode, encode, String.toList_ofList, bytes_encode, Utf8.decode_encode]
  simp [Except.map]

/-- A text is read from codes exactly when its UTF-8 bytes are what the codes stand for. -/
theorem decode_eq_ok_iff (code text : String) :
    decode code = .ok text ↔ Utf8.encode text.toList = bytes code.toList := by
  rw [← Utf8.decode_eq_ok_iff]
  constructor
  · intro h
    obtain ⟨s, hs, rfl⟩ := (Checks.map_eq_ok_iff _ _ _).mp h
    rw [hs, String.toList_ofList]
  · intro h
    rw [decode, h]
    simp [Except.map]

theorem decode_of_standsFor {code text : String} (h : StandsFor code.toList text.toList) :
    decode code = .ok text :=
  (decode_eq_ok_iff code text).mpr (bytes_of_standsFor h).symm

/-- Codes that are joined by a plain separator stand for the joined texts. -/
theorem StandsFor.join {α : Type} {separator : String} (hs : '%' ∉ separator.toList)
    {code text : α → String} {xs : List α}
    (h : ∀ x ∈ xs, StandsFor (code x).toList (text x).toList) :
    StandsFor (Text.join separator (xs.map code)).toList
      (Text.join separator (xs.map text)).toList := by
  induction xs with
  | nil => exact .nil
  | cons x xs ih =>
    have hx := h x List.mem_cons_self
    have hxs := ih fun y hy => h y (List.mem_cons_of_mem x hy)
    by_cases hnil : xs = []
    · subst hnil
      exact hx
    · rw [List.map_cons, List.map_cons, join_cons _ _ (by simpa using hnil),
        join_cons _ _ (by simpa using hnil)]
      simp only [String.toList_append]
      exact (hx.append (.plain hs)).append hxs

theorem mem_encodeChar {c d : Char} (h : d ∈ encodeChar c) : isPlain d = true ∨ d = '%' := by
  by_cases hc : isPlain c = true
  · rw [encodeChar, if_pos hc, List.mem_singleton] at h
    exact .inl (h ▸ hc)
  · rw [encodeChar, if_neg hc] at h
    obtain ⟨b, _, hd⟩ := List.mem_flatMap.mp h
    have hb := b.toNat_lt
    simp only [encodeByte, List.mem_cons, List.not_mem_nil, or_false] at hd
    rcases hd with rfl | rfl | rfl
    · exact .inr rfl
    · exact .inl (isPlain_hexDigit (by omega))
    · exact .inl (isPlain_hexDigit (by omega))

theorem not_mem_encode {mark : Char} (hp : isPlain mark = false) (hm : mark ≠ '%') (s : String) :
    mark ∉ (encode s).toList := by
  intro h
  rw [encode, String.toList_ofList] at h
  obtain ⟨c, _, hc⟩ := List.mem_flatMap.mp h
  rcases mem_encodeChar hc with h | h
  · rw [hp] at h
    cases h
  · exact hm h

end DeviceGraph.Text.Percent
