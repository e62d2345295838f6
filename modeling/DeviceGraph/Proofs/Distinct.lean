/-!
# Lists without repeats

Dropping repeats leaves none, and changes nothing where there are none.
-/

set_option autoImplicit false

namespace DeviceGraph

variable {α : Type} [BEq α] [LawfulBEq α]

theorem nodup_eraseDups (xs : List α) : xs.eraseDups.Nodup := by
  -- the recursion is on what a filter leaves of the tail, so the induction is on the length
  induction hn : xs.length using Nat.strongRecOn generalizing xs with
  | ind n ih =>
    cases xs with
    | nil => simp
    | cons x rest =>
      have hlen : (rest.filter fun b => !b == x).length < n := by
        have hle := List.length_filter_le (fun b => !b == x) rest
        rw [List.length_cons] at hn
        omega
      rw [List.eraseDups_cons, List.nodup_cons, List.mem_eraseDups]
      exact ⟨by simp, ih _ hlen _ rfl⟩

theorem eraseDups_of_nodup {xs : List α} (h : xs.Nodup) : xs.eraseDups = xs := by
  induction xs with
  | nil => rfl
  | cons x rest ih =>
    obtain ⟨hx, hr⟩ := List.nodup_cons.mp h
    have hkeep : (rest.filter fun b => !b == x) = rest := by
      apply List.filter_eq_self.mpr
      intro b hb
      have hbx : b ≠ x := fun heq => hx (heq ▸ hb)
      simp [hbx]
    rw [List.eraseDups_cons, hkeep, ih hr]

end DeviceGraph
