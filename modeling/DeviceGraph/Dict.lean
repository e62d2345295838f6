/-!
# Key-sorted dictionaries

A dictionary holds at most one value a key, and its entries stand in the order
of their keys by code point. The operations are first given on plain entry
lists, which also serve where a recursive type holds entries of itself.
-/

set_option autoImplicit false

namespace DeviceGraph

variable {α β : Type}

namespace Entries

def get? (key : String) : List (String × α) → Option α
  | [] => none
  | (k, v) :: rest => if key = k then some v else get? key rest

/-- Writes the value under the key, in front of the first larger key. -/
def insert (key : String) (value : α) : List (String × α) → List (String × α)
  | [] => [(key, value)]
  | (k, v) :: rest =>
    if key = k then (key, value) :: rest
    else if key < k then (key, value) :: (k, v) :: rest
    else (k, v) :: insert key value rest

def erase (key : String) (entries : List (String × α)) : List (String × α) :=
  entries.filter (fun entry => entry.1 ≠ key)

/-- Adds a value at the end of the list stored under the key. -/
def append (key : String) (value : α) (entries : List (String × List α)) :
    List (String × List α) :=
  insert key ((get? key entries).getD [] ++ [value]) entries

theorem get?_insert_self (key : String) (value : α) (entries : List (String × α)) :
    get? key (insert key value entries) = some value := by
  fun_induction insert key value entries <;> simp_all [get?]

theorem get?_insert_of_ne {key other : String} (h : other ≠ key) (value : α)
    (entries : List (String × α)) :
    get? other (insert key value entries) = get? other entries := by
  fun_induction insert key value entries <;> simp_all [get?]

/-- Keys of an extended list are the old keys and the new one. -/
theorem mem_insert {key : String} {value : α} {entries : List (String × α)} {e : String × α}
    (h : e ∈ insert key value entries) : e = (key, value) ∨ e ∈ entries := by
  fun_induction insert key value entries with
  | case1 => simpa using h
  | case2 v rest =>
    rcases List.mem_cons.1 h with h | h
    · exact .inl h
    · exact .inr (List.mem_cons_of_mem _ h)
  | case3 k v rest => rcases List.mem_cons.1 h with h | h <;> simp_all
  | case4 k v rest _ _ ih =>
    rcases List.mem_cons.1 h with h | h
    · exact .inr (by simp [h])
    · rcases ih h with h | h
      · exact .inl h
      · exact .inr (List.mem_cons_of_mem _ h)

theorem sorted_insert (key : String) (value : α) {entries : List (String × α)}
    (h : entries.Pairwise (fun a b => a.1 < b.1)) :
    (insert key value entries).Pairwise (fun a b => a.1 < b.1) := by
  fun_induction insert key value entries with
  | case1 => simp
  | case2 v rest => simpa using h
  | case3 k v rest _ hlt =>
    refine List.pairwise_cons.2 ⟨fun e he => ?_, h⟩
    rcases List.mem_cons.1 he with he | he
    · simpa [he] using hlt
    · exact String.lt_trans hlt ((List.pairwise_cons.1 h).1 e he)
  | case4 k v rest hne hlt ih =>
    have hk : k < key := Classical.byContradiction fun hk =>
      hne (String.le_antisymm (String.not_lt.1 hk) (String.not_lt.1 hlt))
    refine List.pairwise_cons.2 ⟨fun e he => ?_, ih (List.pairwise_cons.1 h).2⟩
    rcases mem_insert he with he | he
    · simpa [he] using hk
    · exact (List.pairwise_cons.1 h).1 e he

end Entries

/-- A dictionary from strings to values, its entries sorted by key. -/
structure Dict (α : Type) where
  entries : List (String × α)
  sorted : entries.Pairwise (fun a b => a.1 < b.1)
  deriving DecidableEq

namespace Dict

def empty : Dict α := ⟨[], .nil⟩

instance : Inhabited (Dict α) := ⟨empty⟩

def isEmpty (d : Dict α) : Bool := d.entries.isEmpty

def size (d : Dict α) : Nat := d.entries.length

def keys (d : Dict α) : List String := d.entries.map (·.1)

def get? (d : Dict α) (key : String) : Option α := Entries.get? key d.entries

def insert (d : Dict α) (key : String) (value : α) : Dict α :=
  ⟨Entries.insert key value d.entries, Entries.sorted_insert key value d.sorted⟩

def erase (d : Dict α) (key : String) : Dict α :=
  ⟨Entries.erase key d.entries, d.sorted.filter _⟩

def filter (d : Dict α) (keep : String → α → Bool) : Dict α :=
  ⟨d.entries.filter (fun entry => keep entry.1 entry.2), d.sorted.filter _⟩

def map (d : Dict α) (f : α → β) : Dict β :=
  ⟨d.entries.map (fun entry => (entry.1, f entry.2)), d.sorted.map _ fun _ _ h => h⟩

/-- The dictionary of a list of entries; of two entries with one key the later stays. -/
def ofList (entries : List (String × α)) : Dict α :=
  entries.foldl (fun d entry => d.insert entry.1 entry.2) empty

def append (d : Dict (List α)) (key : String) (value : α) : Dict (List α) :=
  d.insert key ((d.get? key).getD [] ++ [value])

theorem get?_insert_self (d : Dict α) (key : String) (value : α) :
    (d.insert key value).get? key = some value :=
  Entries.get?_insert_self key value d.entries

theorem get?_insert_of_ne (d : Dict α) {key other : String} (h : other ≠ key) (value : α) :
    (d.insert key value).get? other = d.get? other :=
  Entries.get?_insert_of_ne h value d.entries

end Dict

end DeviceGraph
