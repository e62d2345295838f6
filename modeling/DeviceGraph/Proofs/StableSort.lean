import Mathlib.Data.List.Basic
import Mathlib.Order.Lattice

/-!
# Stable sorting

A stable sort by a key keeps the elements of one key in the order in which they stand. A list
in the order of its keys is determined by the elements of every key, so it is the stable sort
of any list that has the same elements of every key in the same order.
-/

set_option autoImplicit false

namespace DeviceGraph.StableSort

variable {α κ : Type} [LinearOrder κ] {key : α → κ} {l m : List α}

theorem mem_iff_of_filter_eq (h : ∀ b, l.filter (key · = key b) = m.filter (key · = key b))
    (a : α) : a ∈ l ↔ a ∈ m := by
  have ha := congrArg (a ∈ ·) (h a)
  simpa using ha

theorem key_le_of_mem {a b : α} (h : (a :: l).Pairwise (key · ≤ key ·)) (hb : b ∈ a :: l) :
    key a ≤ key b := by
  rcases List.mem_cons.mp hb with rfl | hb
  · exact le_refl _
  · exact List.rel_of_pairwise_cons h hb

theorem eq_of_filter_eq (hl : l.Pairwise (key · ≤ key ·)) (hm : m.Pairwise (key · ≤ key ·))
    (h : ∀ b, l.filter (key · = key b) = m.filter (key · = key b)) : l = m := by
  induction l generalizing m with
  | nil =>
    symm
    rw [List.eq_nil_iff_forall_not_mem]
    exact fun b hb => List.not_mem_nil ((mem_iff_of_filter_eq h b).mpr hb)
  | cons a l ih =>
    have ha : a ∈ m := (mem_iff_of_filter_eq h a).mp List.mem_cons_self
    cases m with
    | nil => exact absurd ha List.not_mem_nil
    | cons b m =>
      have hb : b ∈ a :: l := (mem_iff_of_filter_eq h b).mpr List.mem_cons_self
      have hkey : key b = key a := le_antisymm (key_le_of_mem hm ha) (key_le_of_mem hl hb)
      -- both heads come first among the elements of their key
      have hgroup := h a
      simp only [List.filter_cons, hkey, decide_true, if_true] at hgroup
      obtain rfl : a = b := (List.cons.inj hgroup).1
      have htail : ∀ c, l.filter (key · = key c) = m.filter (key · = key c) := by
        intro c
        have hc := h c
        by_cases hac : key a = key c
        · simpa [hac] using hc
        · simpa [hac] using hc
      rw [ih (List.pairwise_cons.mp hl).2 (List.pairwise_cons.mp hm).2 htail]

theorem le_key_trans (a b c : α) (hab : decide (key a ≤ key b) = true)
    (hbc : decide (key b ≤ key c) = true) : decide (key a ≤ key c) = true :=
  decide_eq_true (le_trans (of_decide_eq_true hab) (of_decide_eq_true hbc))

theorem le_key_total (a b : α) : (decide (key a ≤ key b) || decide (key b ≤ key a)) = true := by
  simp only [Bool.or_eq_true, decide_eq_true_eq]
  exact le_total _ _

theorem filter_mergeSort (l : List α) (k : κ) :
    (l.mergeSort (key · ≤ key ·)).filter (key · = k) = l.filter (key · = k) := by
  -- the elements of one key are in order already, so they are found in the sorted list
  have hgroup : (l.filter (key · = k)).Pairwise fun a b => decide (key a ≤ key b) = true := by
    refine List.pairwise_of_forall_mem_list fun a ha b hb => ?_
    have hab : key a = key b := by
      rw [of_decide_eq_true (List.mem_filter.mp ha).2, of_decide_eq_true (List.mem_filter.mp hb).2]
    exact decide_eq_true (le_of_eq hab)
  have hsub := (List.sublist_mergeSort le_key_trans le_key_total hgroup
    List.filter_sublist).filter (key · = k)
  rw [List.filter_filter] at hsub
  have hlength := ((List.mergeSort_perm l (key · ≤ key ·)).filter (key · = k)).length_eq
  simp only [Bool.and_self] at hsub
  exact (hsub.eq_of_length hlength.symm).symm

/-- What is in the order of the keys, with the same elements of every key, is stably sorted. -/
theorem eq_mergeSort (hm : m.Pairwise (key · ≤ key ·))
    (h : ∀ b, m.filter (key · = key b) = l.filter (key · = key b)) :
    m = l.mergeSort (key · ≤ key ·) := by
  have hsorted := List.pairwise_mergeSort (@le_key_trans α κ _ key) le_key_total l
  simp only [decide_eq_true_eq] at hsorted
  exact eq_of_filter_eq hm hsorted fun b => (h b).trans (filter_mergeSort l (key b)).symm

end DeviceGraph.StableSort
