import DeviceGraph.Text.Pieces

/-!
# Cutting what was joined

Cutting a joined text at the mark gives the pieces of the joined texts in their
order, whether or not the texts hold the mark themselves. The pieces of a text are
the only texts without the mark that it can be joined from.
-/

set_option autoImplicit false

namespace DeviceGraph.Text

theorem pushFront_append (c : Char) {ps : List (List Char)} (h : ps ≠ [])
    (qs : List (List Char)) : pushFront c (ps ++ qs) = pushFront c ps ++ qs := by
  cases ps with
  | nil => exact absurd rfl h
  | cons p ps => rfl

theorem pieces_append_mark (mark : Char) (a b : List Char) :
    pieces mark (a ++ mark :: b) = pieces mark a ++ pieces mark b := by
  induction a with
  | nil => simp [pieces]
  | cons c a ih =>
    by_cases h : c = mark
    · simp [pieces, h, ih]
    · simp [pieces, h, ih, pushFront_append c (pieces_ne_nil mark a)]

theorem pieces_of_not_mem (mark : Char) (s : List Char) (h : mark ∉ s) :
    pieces mark s = [s] := by
  induction s with
  | nil => rfl
  | cons c s ih =>
    obtain ⟨hc, hs⟩ := not_or.mp (mt List.mem_cons.mpr h)
    rw [pieces, if_neg (Ne.symm hc), ih hs]
    rfl

theorem not_mem_of_mem_pieces {mark : Char} {s piece : List Char} (h : piece ∈ pieces mark s) :
    mark ∉ piece := by
  induction s generalizing piece with
  | nil =>
    rw [pieces, List.mem_singleton] at h
    simp [h]
  | cons c s ih =>
    by_cases hc : c = mark
    · rw [pieces, if_pos hc] at h
      rcases List.mem_cons.mp h with rfl | h
      · simp
      · exact ih h
    · rw [pieces, if_neg hc] at h
      obtain ⟨p, ps, hp⟩ := List.exists_cons_of_ne_nil (pieces_ne_nil mark s)
      rw [hp] at h ih
      rcases List.mem_cons.mp h with rfl | h
      · exact mt List.mem_cons.mp (not_or.mpr ⟨Ne.symm hc, ih (by simp)⟩)
      · exact ih (by simp [h])

theorem length_pieces (mark : Char) (s : List Char) :
    (pieces mark s).length = s.count mark + 1 := by
  induction s with
  | nil => rfl
  | cons c s ih =>
    by_cases hc : c = mark
    · simp [pieces, hc, ih]
    · obtain ⟨p, ps, hp⟩ := List.exists_cons_of_ne_nil (pieces_ne_nil mark s)
      rw [hp] at ih
      rw [pieces, if_neg hc, hp, List.count_cons_of_ne hc, ← ih]
      rfl

theorem pieces_all_nil_iff (mark : Char) (s : List Char) :
    (∀ piece ∈ pieces mark s, piece = []) ↔ ∀ c ∈ s, c = mark := by
  induction s with
  | nil => simp [pieces]
  | cons c s ih =>
    by_cases hc : c = mark
    · rw [pieces, if_pos hc, List.forall_mem_cons, List.forall_mem_cons, ih]
      simp [hc]
    · obtain ⟨p, ps, hp⟩ := List.exists_cons_of_ne_nil (pieces_ne_nil mark s)
      rw [pieces, if_neg hc, hp, List.forall_mem_cons]
      simp [pushFront, hc]

theorem mem_of_mem_pieces {mark c : Char} {s piece : List Char} (h : piece ∈ pieces mark s)
    (hc : c ∈ piece) : c ∈ s := by
  induction s generalizing piece with
  | nil =>
    rw [pieces, List.mem_singleton] at h
    exact h ▸ hc
  | cons d s ih =>
    by_cases hd : d = mark
    · rw [pieces, if_pos hd] at h
      rcases List.mem_cons.mp h with rfl | h
      · cases hc
      · exact List.mem_cons_of_mem d (ih h hc)
    · rw [pieces, if_neg hd] at h
      obtain ⟨p, ps, hp⟩ := List.exists_cons_of_ne_nil (pieces_ne_nil mark s)
      rw [hp] at h ih
      rcases List.mem_cons.mp h with rfl | h
      · rcases List.mem_cons.mp hc with rfl | hc
        · exact List.mem_cons_self
        · exact List.mem_cons_of_mem d (ih List.mem_cons_self hc)
      · exact List.mem_cons_of_mem d (ih (List.mem_cons_of_mem p h) hc)

theorem join_cons (separator text : String) {texts : List String} (h : texts ≠ []) :
    join separator (text :: texts) = text ++ separator ++ join separator texts := by
  cases texts with
  | nil => exact absurd rfl h
  | cons next rest => rfl

theorem join_concat (separator last : String) {texts : List String} (h : texts ≠ []) :
    join separator (texts ++ [last]) = join separator texts ++ separator ++ last := by
  induction texts with
  | nil => exact absurd rfl h
  | cons text texts ih =>
    by_cases ht : texts = []
    · simp [ht, join]
    · rw [List.cons_append, join_cons _ _ (by simp), ih ht, join_cons _ _ ht]
      simp [String.append_assoc]

theorem toList_join (separator : String) (texts : List String) :
    (join separator texts).toList = separator.toList.intercalate (texts.map String.toList) := by
  fun_induction join separator texts with
  | case1 => rfl
  | case2 text => simp [List.intercalate_singleton]
  | case3 text next rest ih =>
    rw [String.toList_append, String.toList_append, ih]
    simp [List.intercalate_cons_cons]

theorem mem_join {c : Char} {separator : String} {texts : List String}
    (h : c ∈ (join separator texts).toList) :
    c ∈ separator.toList ∨ ∃ text ∈ texts, c ∈ text.toList := by
  induction texts with
  | nil => simp [join] at h
  | cons text texts ih =>
    by_cases ht : texts = []
    · rw [ht, join] at h
      exact .inr ⟨text, by simp, h⟩
    · rw [join_cons _ _ ht, String.toList_append, String.toList_append, List.mem_append,
        List.mem_append] at h
      rcases h with (h | h) | h
      · exact .inr ⟨text, by simp, h⟩
      · exact .inl h
      · rcases ih h with h | ⟨t, hm, h⟩
        · exact .inl h
        · exact .inr ⟨t, List.mem_cons_of_mem _ hm, h⟩

theorem pieces_join {mark : Char} {separator : String} (hs : separator.toList = [mark])
    {texts : List String} (h : texts ≠ []) :
    pieces mark (join separator texts).toList =
      texts.flatMap (fun text => pieces mark text.toList) := by
  induction texts with
  | nil => exact absurd rfl h
  | cons text texts ih =>
    by_cases ht : texts = []
    · simp [ht, join]
    · have hl : (join separator (text :: texts)).toList =
          text.toList ++ mark :: (join separator texts).toList := by
        simp [join_cons separator text ht, hs]
      rw [hl, pieces_append_mark, ih ht, List.flatMap_cons]

theorem split_join {mark : Char} {separator : String} (hs : separator.toList = [mark])
    {texts : List String} (h : texts ≠ []) :
    split mark (join separator texts) = texts.flatMap (split mark) := by
  rw [split, pieces_join hs h, List.map_flatMap]
  rfl

theorem split_of_not_mem {mark : Char} {s : String} (h : mark ∉ s.toList) :
    split mark s = [s] := by
  simp [split, pieces_of_not_mem mark s.toList h]

theorem length_split (mark : Char) (s : String) :
    (split mark s).length = s.toList.count mark + 1 := by
  rw [split, List.length_map, length_pieces]

theorem toList_join_pieces {mark : Char} {separator : String} (hs : separator.toList = [mark])
    (s : List Char) : (join separator ((pieces mark s).map String.ofList)).toList = s := by
  induction s with
  | nil => rfl
  | cons c s ih =>
    obtain ⟨p, ps, hp⟩ := List.exists_cons_of_ne_nil (pieces_ne_nil mark s)
    rw [hp, List.map_cons] at ih
    by_cases hc : c = mark
    · rw [pieces, if_pos hc, hp, List.map_cons, List.map_cons, join_cons _ _ (by simp),
        String.toList_append, ih]
      simp [hs, hc]
    · rw [pieces, if_neg hc, hp, pushFront, List.map_cons]
      cases ps with
      | nil => simpa [join] using ih
      | cons q ps => simpa [join] using ih

/-- Joining puts a text together again that was cut. -/
theorem join_split {mark : Char} {separator : String} (hs : separator.toList = [mark])
    (s : String) : join separator (split mark s) = s :=
  String.toList_inj.mp (toList_join_pieces hs s.toList)

theorem not_mem_of_mem_split {mark : Char} {s text : String} (h : text ∈ split mark s) :
    mark ∉ text.toList := by
  obtain ⟨piece, hp, rfl⟩ := List.mem_map.mp h
  rw [String.toList_ofList]
  exact not_mem_of_mem_pieces hp

theorem split_all_empty_iff (mark : Char) (s : String) :
    (∀ text ∈ split mark s, text = "") ↔ ∀ c ∈ s.toList, c = mark := by
  rw [← pieces_all_nil_iff, split, List.forall_mem_map]
  simp only [← String.toList_inj, String.toList_ofList]
  rfl

theorem flatMap_split_of_not_mem {mark : Char} {texts : List String}
    (h : ∀ text ∈ texts, mark ∉ text.toList) : texts.flatMap (split mark) = texts := by
  induction texts with
  | nil => rfl
  | cons text texts ih =>
    rw [List.flatMap_cons, split_of_not_mem (h text (by simp)),
      ih (fun t ht => h t (by simp [ht]))]
    rfl

/-- Texts without a mark that a text is joined from, the mark between neighbours. -/
structure Parts (mark : Char) (text : String) (parts : List String) : Prop where
  joined : text = join (String.singleton mark) parts
  apart : ∀ part ∈ parts, mark ∉ part.toList
  nonempty : parts ≠ []

theorem split_eq_iff (mark : Char) (text : String) (parts : List String) :
    split mark text = parts ↔ Parts mark text parts := by
  have hmark : (String.singleton mark).toList = [mark] := by simp
  constructor
  · rintro rfl
    exact ⟨(join_split hmark text).symm, fun _ => not_mem_of_mem_split,
      mt List.map_eq_nil_iff.mp (pieces_ne_nil mark text.toList)⟩
  · intro h
    rw [h.joined, split_join hmark h.nonempty, flatMap_split_of_not_mem h.apart]

theorem parts_split (mark : Char) (text : String) : Parts mark text (split mark text) :=
  (split_eq_iff mark text _).mp rfl

/-! ## Cutting once -/

theorem cutFirst_append (mark : Char) {a : List Char} (h : mark ∉ a) (b : List Char) :
    cutFirst mark (a ++ mark :: b) = (a, some b) := by
  induction a with
  | nil => simp [cutFirst]
  | cons c a ih =>
    obtain ⟨hc, ha⟩ := not_or.mp (mt List.mem_cons.mpr h)
    simp [cutFirst, Ne.symm hc, ih ha]

theorem cutFirst_of_not_mem (mark : Char) {s : List Char} (h : mark ∉ s) :
    cutFirst mark s = (s, none) := by
  induction s with
  | nil => rfl
  | cons c s ih =>
    obtain ⟨hc, hs⟩ := not_or.mp (mt List.mem_cons.mpr h)
    simp [cutFirst, Ne.symm hc, ih hs]

end DeviceGraph.Text
