import DeviceGraph.Dict
import Mathlib.Data.List.Basic

/-!
# The entries of a dictionary

A dictionary made from entries with distinct keys holds exactly these entries.
Every operation is also given by the values that it leaves under each key, which
determine a dictionary.
-/

set_option autoImplicit false

namespace DeviceGraph

variable {α β : Type}

theorem Entries.perm_insert (key : String) (value : α) (entries : List (String × α))
    (h : key ∉ entries.map (·.1)) : (insert key value entries).Perm ((key, value) :: entries) := by
  fun_induction insert key value entries with
  | case1 => exact .refl _
  | case2 v rest => simp at h
  | case3 k v rest => exact .refl _
  | case4 k v rest _ _ ih =>
    have hrest : key ∉ rest.map (·.1) := fun hm => h (List.mem_cons_of_mem _ hm)
    exact ((ih hrest).cons (k, v)).trans (.swap _ _ _)

theorem Dict.perm_insert (d : Dict α) (key : String) (value : α) (h : key ∉ d.keys) :
    (d.insert key value).entries.Perm ((key, value) :: d.entries) :=
  Entries.perm_insert key value d.entries h

theorem Dict.perm_foldl_insert (entries : List (String × α)) (d : Dict α)
    (h : (d.keys ++ entries.map (·.1)).Nodup) :
    (entries.foldl (fun d entry => d.insert entry.1 entry.2) d).entries.Perm
      (d.entries ++ entries) := by
  induction entries generalizing d with
  | nil => simp
  | cons entry rest ih =>
    have hkey : entry.1 ∉ d.keys := by
      intro hm
      exact (List.nodup_append.mp h).2.2 entry.1 hm entry.1 (by simp) rfl
    have hp := d.perm_insert entry.1 entry.2 hkey
    have hkeys : ((d.insert entry.1 entry.2).keys ++ rest.map (·.1)).Perm
        (d.keys ++ (entry :: rest).map (·.1)) :=
      ((hp.map (·.1)).append_right _).trans List.perm_middle.symm
    exact ((ih _ (hkeys.nodup_iff.mpr h)).trans (hp.append_right rest)).trans
      List.perm_middle.symm

theorem Dict.perm_ofList (entries : List (String × α)) (h : (entries.map (·.1)).Nodup) :
    (ofList entries).entries.Perm entries := perm_foldl_insert entries empty h

/-! ## Values under keys -/

theorem Entries.get?_eq_none_iff (key : String) (entries : List (String × α)) :
    get? key entries = none ↔ key ∉ entries.map (·.1) := by
  induction entries with
  | nil => simp [get?]
  | cons entry rest ih => by_cases h : key = entry.1 <;> simp [get?, h, ih]

theorem Entries.get?_eq_some_iff {entries : List (String × α)} (h : (entries.map (·.1)).Nodup)
    (key : String) (value : α) : get? key entries = some value ↔ (key, value) ∈ entries := by
  induction entries with
  | nil => simp [get?]
  | cons entry rest ih =>
    obtain ⟨k, v⟩ := entry
    obtain ⟨hk, hr⟩ := List.nodup_cons.mp h
    by_cases hkey : key = k
    · subst hkey
      have hrest : (key, value) ∉ rest := fun hm => hk (List.mem_map.mpr ⟨_, hm, rfl⟩)
      simp [get?, hrest, eq_comm]
    · simp [get?, hkey, ih hr]

theorem Entries.mem_of_get? {key : String} {value : α} {entries : List (String × α)}
    (h : get? key entries = some value) : (key, value) ∈ entries := by
  fun_induction get? key entries with
  | case1 => cases h
  | case2 v rest => simp [Option.some.inj h]
  | case3 k v rest hne ih => exact List.mem_cons_of_mem _ (ih h)

theorem Entries.get?_filter (keep : String → α → Bool) {entries : List (String × α)}
    (h : (entries.map (·.1)).Nodup) (key : String) :
    get? key (entries.filter fun entry => keep entry.1 entry.2) =
      (get? key entries).filter (keep key) := by
  induction entries with
  | nil => rfl
  | cons entry rest ih =>
    obtain ⟨k, v⟩ := entry
    obtain ⟨hk, hr⟩ := List.nodup_cons.mp h
    have hrest : key = k → get? key rest = none := by
      rintro rfl
      exact (get?_eq_none_iff key rest).mpr hk
    by_cases hkeep : keep k v = true <;> by_cases hkey : key = k <;>
      simp_all [get?, Option.filter]

theorem Entries.get?_map (f : String → α → β) (key : String) (entries : List (String × α)) :
    get? key (entries.map fun entry => (entry.1, f entry.1 entry.2)) =
      (get? key entries).map (f key) := by
  induction entries with
  | nil => rfl
  | cons entry rest ih =>
    by_cases h : key = entry.1
    · subst h
      simp [get?]
    · simp [get?, h, ih]

namespace Dict

theorem nodup_keys (d : Dict α) : d.keys.Nodup := by
  rw [keys, List.nodup_iff_pairwise_ne, List.pairwise_map]
  refine d.sorted.imp fun {a b} hlt heq => ?_
  rw [heq] at hlt
  exact String.lt_irrefl b.1 hlt

theorem nodup_entries (d : Dict α) : d.entries.Nodup := by
  have h := d.nodup_keys
  rw [keys, List.nodup_iff_pairwise_ne, List.pairwise_map] at h
  exact h.imp fun hne heq => hne (congrArg Prod.fst heq)

@[simp] theorem get?_empty (key : String) : (empty : Dict α).get? key = none := rfl

theorem get?_eq_none_iff (d : Dict α) (key : String) : d.get? key = none ↔ key ∉ d.keys :=
  Entries.get?_eq_none_iff key d.entries

theorem get?_eq_some_iff (d : Dict α) (key : String) (value : α) :
    d.get? key = some value ↔ (key, value) ∈ d.entries :=
  Entries.get?_eq_some_iff d.nodup_keys key value

theorem get?_insert (d : Dict α) (key other : String) (value : α) :
    (d.insert key value).get? other = if other = key then some value else d.get? other := by
  by_cases h : other = key
  · rw [h, if_pos rfl, get?_insert_self]
  · rw [if_neg h, get?_insert_of_ne d h]

theorem get?_filter (d : Dict α) (keep : String → α → Bool) (key : String) :
    (d.filter keep).get? key = (d.get? key).filter (keep key) :=
  Entries.get?_filter keep d.nodup_keys key

theorem get?_erase (d : Dict α) (key other : String) :
    (d.erase key).get? other = if other = key then none else d.get? other := by
  have h := d.get?_filter (fun k _ => decide (k ≠ key)) other
  have herase : d.erase key = d.filter fun k _ => decide (k ≠ key) := rfl
  rw [herase, h]
  cases d.get? other <;> by_cases hk : other = key <;> simp [hk, Option.filter]

theorem get?_map (d : Dict α) (f : α → β) (key : String) :
    (d.map f).get? key = (d.get? key).map f :=
  Entries.get?_map (fun _ => f) key d.entries

def mapEntries (d : Dict α) (f : String → α → β) : Dict β :=
  ⟨d.entries.map fun entry => (entry.1, f entry.1 entry.2), d.sorted.map _ fun _ _ h => h⟩

theorem get?_mapEntries (d : Dict α) (f : String → α → β) (key : String) :
    (d.mapEntries f).get? key = (d.get? key).map (f key) :=
  Entries.get?_map f key d.entries

theorem mem_keys_insert (d : Dict α) (key other : String) (value : α) :
    other ∈ (d.insert key value).keys ↔ other = key ∨ other ∈ d.keys := by
  rw [← not_iff_not, ← get?_eq_none_iff, get?_insert, not_or, ← get?_eq_none_iff]
  by_cases h : other = key <;> simp [h]

theorem size_insert (d : Dict α) {key : String} (h : key ∉ d.keys) (value : α) :
    (d.insert key value).size = d.size + 1 := by
  have hp := (d.perm_insert key value h).length_eq
  rw [List.length_cons] at hp
  exact hp

/-- A dictionary is determined by the values under its keys. -/
theorem ext_get? {d e : Dict α} (h : ∀ key, d.get? key = e.get? key) : d = e := by
  have hmem : ∀ entry, entry ∈ d.entries ↔ entry ∈ e.entries := by
    rintro ⟨key, value⟩
    rw [← get?_eq_some_iff, ← get?_eq_some_iff, h]
  have hp : d.entries.Perm e.entries :=
    (List.perm_ext_iff_of_nodup d.nodup_entries e.nodup_entries).mpr hmem
  have hentries : d.entries = e.entries := hp.eq_of_pairwise
    (fun a b _ _ hab hba => absurd (String.lt_trans hab hba) (String.lt_irrefl _)) d.sorted e.sorted
  cases d
  cases e
  simp only [mk.injEq]
  exact hentries

/-! ## One dictionary over another -/

/-- The entries of both dictionaries; under a key of both, the value of the second. -/
def override (d e : Dict α) : Dict α :=
  e.entries.foldl (fun d entry => d.insert entry.1 entry.2) d

theorem get?_foldl_insert (entries : List (String × α)) (h : (entries.map (·.1)).Nodup)
    (d : Dict α) (key : String) :
    (entries.foldl (fun d entry => d.insert entry.1 entry.2) d).get? key =
      (Entries.get? key entries).or (d.get? key) := by
  induction entries generalizing d with
  | nil => rfl
  | cons entry rest ih =>
    obtain ⟨name, value⟩ := entry
    obtain ⟨hname, hrest⟩ := List.nodup_cons.mp h
    rw [List.foldl_cons, ih hrest, get?_insert, Entries.get?]
    by_cases hkey : key = name
    · subst hkey
      rw [(Entries.get?_eq_none_iff key rest).mpr hname]
      simp
    · simp [hkey]

theorem get?_override (d e : Dict α) (key : String) :
    (d.override e).get? key = (e.get? key).or (d.get? key) :=
  get?_foldl_insert e.entries e.nodup_keys d key

theorem override_self (d : Dict α) : d.override d = d :=
  ext_get? fun key => by rw [get?_override, Option.or_self]

theorem mem_keys_override (d e : Dict α) (key : String) :
    key ∈ (d.override e).keys ↔ key ∈ d.keys ∨ key ∈ e.keys := by
  rw [← not_iff_not, ← get?_eq_none_iff, get?_override, Option.or_eq_none_iff, get?_eq_none_iff,
    get?_eq_none_iff, not_or, and_comm]

end Dict

end DeviceGraph
