import DeviceGraph.Proofs.Dict
import DeviceGraph.Proofs.Number.Decimal
import DeviceGraph.Statement.Basic

/-!
# Names of parameters

A made name is a stem without digits and a decimal number, so the number and the
stem can be told from it, and a name without digits is none of them. As long as
no name that is still to be made is bound, binding a new name loses no value.
-/

set_option autoImplicit false

namespace DeviceGraph.Statement

def Lettered (name : String) : Prop := ∀ c ∈ name.toList, c.isDigit = false

instance (name : String) : Decidable (Lettered name) :=
  decidable_of_iff (name.toList.all (!·.isDigit) = true) (by simp [Lettered])

def numbered (stem : String) (n : Nat) : String := stem ++ decimalText n

theorem toList_numbered (stem : String) (n : Nat) :
    (numbered stem n).toList = stem.toList ++ Nat.toDigits 10 n := by
  rw [numbered, String.toList_append, Number.toList_decimalText]
  have hn : ¬ (n : Int) < 0 := by omega
  simp [hn]

theorem mem_numbered {stem : String} {n : Nat} {c : Char} (h : c ∈ (numbered stem n).toList) :
    c ∈ stem.toList ∨ c.isDigit = true := by
  rw [toList_numbered] at h
  exact (List.mem_append.mp h).imp_right Number.isDigit_of_mem_decimal

theorem takeWhile_numbered {stem : String} (h : Lettered stem) (n : Nat) :
    (numbered stem n).toList.takeWhile (fun c => !c.isDigit) = stem.toList := by
  obtain ⟨c, rest, hd⟩ := Number.exists_decimal_eq_cons n
  have hc : c.isDigit = true := Number.isDigit_of_mem_decimal (hd ▸ List.mem_cons_self)
  rw [toList_numbered, List.takeWhile_append_of_pos, hd, List.takeWhile_cons]
  · simp [hc]
  · exact fun c hm => by simp [h c hm]

theorem numbered_inj {stem other : String} (hs : Lettered stem) (ho : Lettered other)
    {m n : Nat} (h : numbered stem m = numbered other n) : stem = other ∧ m = n := by
  have hstem : stem = other := by
    rw [← String.toList_inj, ← takeWhile_numbered hs m, h, takeWhile_numbered ho]
  subst hstem
  have hd : decimalText m = decimalText n := by
    have hl := congrArg String.toList h
    rw [numbered, numbered, String.toList_append, String.toList_append] at hl
    exact String.toList_inj.mp (List.append_cancel_left hl)
  have hi : (m : Int) = n := by
    have hread := Number.int?_decimalText m
    rw [hd, Number.int?_decimalText] at hread
    exact (Option.some.inj hread).symm
  exact ⟨rfl, by omega⟩

theorem lettered_ne_numbered {name : String} (h : Lettered name) (stem : String) (n : Nat) :
    name ≠ numbered stem n := by
  rintro rfl
  obtain ⟨c, rest, hd⟩ := Number.exists_decimal_eq_cons n
  have hm : c ∈ (numbered stem n).toList := by
    rw [toList_numbered, hd]
    simp
  have hc : c.isDigit = true := Number.isDigit_of_mem_decimal (hd ▸ List.mem_cons_self)
  exact absurd (h c hm) (by simp [hc])

/-! ## Binding -/

theorem param?_bind (s : Statement) (name other : String) (value : Json) :
    (s.bind name value).param? other = if other = name then some value else s.param? other :=
  s.params.get?_insert name other value

theorem param?_bindFresh (s : Statement) (stem other : String) (value : Json) :
    (s.bindFresh stem value).1.param? other =
      if other = numbered stem s.issued then some value else s.param? other :=
  s.param?_bind (numbered stem s.issued) other value

/-- No name that is still to be made is bound. -/
def Fresh (s : Statement) : Prop :=
  ∀ stem n, Lettered stem → s.issued ≤ n → numbered stem n ∉ s.params.keys

theorem fresh_new (access : Access) : Fresh { access } := fun _ _ _ _ h => List.not_mem_nil h

theorem Fresh.push {s : Statement} (h : s.Fresh) (clause : Clause) : (s.push clause).Fresh := h

theorem Fresh.bind {s : Statement} (h : s.Fresh) {name : String} (hn : Lettered name)
    (value : Json) : (s.bind name value).Fresh := by
  intro stem n hs hle hm
  rcases (s.params.mem_keys_insert name (numbered stem n) value).mp hm with heq | hm
  · exact lettered_ne_numbered hn stem n heq.symm
  · exact h stem n hs hle hm

theorem Fresh.bindFresh {s : Statement} (h : s.Fresh) {stem : String} (hstem : Lettered stem)
    (value : Json) : (s.bindFresh stem value).1.Fresh := by
  intro other n ho hle hm
  have hlt : s.issued < n := hle
  rcases (s.params.mem_keys_insert _ (numbered other n) value).mp hm with heq | hm
  · exact absurd (numbered_inj ho hstem heq).2 (by omega)
  · exact h other n ho (by omega) hm

theorem Fresh.param?_new {s : Statement} (h : s.Fresh) {stem : String} (hstem : Lettered stem) :
    s.param? (numbered stem s.issued) = none :=
  (s.params.get?_eq_none_iff _).mpr (h stem s.issued hstem (Nat.le_refl _))

/-- Binding a new name loses no value. -/
theorem Fresh.param?_bindFresh_of_bound {s : Statement} (h : s.Fresh) {stem : String}
    (hstem : Lettered stem) (value : Json) {name : String} {v : Json}
    (hv : s.param? name = some v) : (s.bindFresh stem value).1.param? name = some v := by
  have hne : name ≠ numbered stem s.issued := by
    rintro rfl
    rw [h.param?_new hstem] at hv
    cases hv
  rw [param?_bindFresh, if_neg hne, hv]

theorem Fresh.size_bindFresh {s : Statement} (h : s.Fresh) {stem : String}
    (hstem : Lettered stem) (value : Json) :
    (s.bindFresh stem value).1.params.size = s.params.size + 1 :=
  s.params.size_insert (h stem s.issued hstem (Nat.le_refl _)) value

end DeviceGraph.Statement
