import DeviceGraph.Proofs.Text.Pieces
import Mathlib.Data.List.Basic

/-!
# Texts that are read from the front

Where every item can be split off the front of a text, a sequence of items can
be split off too, as long as what follows the sequence is not the start of an item.
-/

set_option autoImplicit false

namespace DeviceGraph.Text

/-- What stands in front of the first mark can be split off. -/
theorem append_mark_inj {mark : Char} {a b r t : List Char} (ha : mark ∉ a) (hb : mark ∉ b)
    (h : a ++ mark :: r = b ++ mark :: t) : a = b ∧ r = t := by
  have hcut := congrArg (cutFirst mark) h
  rw [cutFirst_append mark ha, cutFirst_append mark hb] at hcut
  simpa using hcut

/-- A separator in front of a separated list makes it a list of separators with items. -/
theorem append_intercalate (separator : List Char) {items : List (List Char)} (h : items ≠ []) :
    separator ++ separator.intercalate items = items.flatMap (separator ++ ·) := by
  induction items with
  | nil => exact absurd rfl h
  | cons item rest ih =>
    by_cases hr : rest = []
    · simp [hr, List.intercalate_singleton]
    · rw [List.intercalate_cons_of_ne_nil hr, List.flatMap_cons, ← ih hr]
      simp

section Sequence

variable {α : Type} {write : α → List Char} {P : α → Prop} {N E : List Char → Prop}

/-- Sequences of items with `P` are split off when each of them is in front of a text
with `N`, which another item and an end have. Texts with `E` are ends; no item is one. -/
theorem flatMap_append_inj
    (hitem : ∀ {a b r t}, P a → P b → N r → N t → write a ++ r = write b ++ t →
      a = b ∧ r = t)
    (hnext : ∀ a r, N (write a ++ r)) (hend : ∀ {r}, E r → N r)
    (hstop : ∀ a r, ¬ E (write a ++ r)) {as bs : List α} (ha : ∀ a ∈ as, P a)
    (hb : ∀ b ∈ bs, P b) {r t : List Char} (hr : E r) (ht : E t)
    (h : as.flatMap write ++ r = bs.flatMap write ++ t) : as = bs ∧ r = t := by
  have hfollow : ∀ {items : List α} {rest : List Char}, E rest →
      N (items.flatMap write ++ rest) := by
    intro items rest he
    cases items with
    | nil => exact hend he
    | cons item items =>
      rw [List.flatMap_cons, List.append_assoc]
      exact hnext item _
  induction as generalizing bs with
  | nil =>
    cases bs with
    | nil => exact ⟨rfl, h⟩
    | cons b bs =>
      rw [List.flatMap_cons, List.append_assoc] at h
      exact absurd (show E (write b ++ (bs.flatMap write ++ t)) from h ▸ hr) (hstop b _)
  | cons a as ih =>
    rw [List.flatMap_cons, List.append_assoc] at h
    cases bs with
    | nil => exact absurd (show E (write a ++ (as.flatMap write ++ r)) from h ▸ ht) (hstop a _)
    | cons b bs =>
      rw [List.flatMap_cons, List.append_assoc] at h
      obtain ⟨rfl, hrest⟩ := hitem (ha a List.mem_cons_self) (hb b List.mem_cons_self)
        (hfollow hr) (hfollow ht) h
      obtain ⟨rfl, hrt⟩ := ih (fun a hm => ha a (List.mem_cons_of_mem _ hm))
        (fun b hm => hb b (List.mem_cons_of_mem _ hm)) hrest
      exact ⟨rfl, hrt⟩

end Sequence

end DeviceGraph.Text
