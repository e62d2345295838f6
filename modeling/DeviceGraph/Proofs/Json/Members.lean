import DeviceGraph.Proofs.Dict
import DeviceGraph.Json.Record

/-!
# Members of written records

A record is written with a member for each field that has something to say, and a field that
was left out gets its own value when the record is read. So a record is read back field by
field, from the member of the field alone.
-/

set_option autoImplicit false

namespace DeviceGraph

namespace Json

/-! ## Members and what is left out -/

def member (name : String) (value : Option Json) : List (String × Json) :=
  (value.map (name, ·)).toList

def members (fields : List (String × Option Json)) : List (String × Json) :=
  fields.flatMap fun field => member field.1 field.2

@[simp] theorem member_some (name : String) (value : Json) :
    member name (some value) = [(name, value)] := rfl

@[simp] theorem members_nil : members [] = [] := rfl

@[simp] theorem members_cons (name : String) (value : Option Json)
    (rest : List (String × Option Json)) :
    members ((name, value) :: rest) = member name value ++ members rest := rfl

def leftOutIf (omitted : Bool) (value : Json) : Option Json := if omitted then none else some value

theorem member_leftOutIf (name : String) (omitted : Bool) (value : Json) :
    member name (leftOutIf omitted value) = if omitted then [] else [(name, value)] := by
  cases omitted <;> rfl

/-- What was left out is read as the default, so that must be what was to be written. -/
theorem elim_leftOutIf {α : Type} {read : Json → α} {default result : α} {omitted : Bool}
    {value : Json} (hdefault : omitted = true → default = result) (hread : read value = result) :
    (leftOutIf omitted value).elim default read = result := by
  cases omitted with
  | false => exact hread
  | true => exact hdefault rfl

end Json

namespace Entries

variable {α : Type}

theorem get?_members {fields : List (String × Option Json)} (h : (fields.map (·.1)).Nodup)
    (key : String) : get? key (Json.members fields) = (get? key fields).join := by
  induction fields with
  | nil => rfl
  | cons field rest ih =>
    obtain ⟨name, value⟩ := field
    obtain ⟨hname, hrest⟩ := List.nodup_cons.mp h
    rw [Json.members_cons, get?]
    by_cases hkey : key = name
    · subst hkey
      cases value with
      | none => simp [Json.member, ih hrest, (get?_eq_none_iff key rest).mpr hname]
      | some value => simp [get?]
    · cases value with
      | none => simp [Json.member, hkey, ih hrest]
      | some value => simp [get?, hkey, ih hrest]

/-- A search for a member that goes along the list is the lookup of it. -/
theorem eq_elim_get? {β : Type} {key : String} {default : β} {read : α → β}
    {search : List (String × α) → β} (hnil : search [] = default)
    (hcons : ∀ name value rest, search ((name, value) :: rest) =
      if name = key then read value else search rest) (members : List (String × α)) :
    search members = (get? key members).elim default read := by
  induction members with
  | nil => exact hnil
  | cons member rest ih =>
    obtain ⟨name, value⟩ := member
    rw [hcons, get?, ih]
    by_cases h : name = key
    · simp [h]
    · simp [h, Ne.symm h]

end Entries

namespace Record

variable {α : Type} {fields : List (String × Option Json)} (h : (fields.map (·.1)).Nodup)

include h

theorem required_members (field : String) (read : Json → Option α) :
    (Record.mk (Json.members fields) false).required field read =
      (Entries.get? field fields).join.bind read := by
  rw [required, Entries.get?_members h]
  cases (Entries.get? field fields).join <;> rfl

theorem defaulted_members (field : String) (default : α) (read : Json → Option α) :
    (Record.mk (Json.members fields) false).defaulted field default read =
      (Entries.get? field fields).join.elim (some default) read := by
  rw [defaulted, Entries.get?_members h]
  cases (Entries.get? field fields).join <;> rfl

/-- A field without a value is read as none; so is `null`, which no written field holds. -/
theorem optional_members (field : String) (read : Json → Option α)
    (hnull : (Entries.get? field fields).join ≠ some .null) :
    (Record.mk (Json.members fields) false).optional field read =
      (Entries.get? field fields).join.elim (some none) fun value => (read value).map some := by
  rw [optional, Entries.get?_members h]
  cases hvalue : (Entries.get? field fields).join with
  | none => rfl
  | some value =>
    cases value with
    | null => exact absurd hvalue hnull
    | _ => rfl

end Record

/-! ## Values of fields -/

namespace Dict

theorem eq_empty_of_isEmpty {α : Type} {d : Dict α} (h : d.isEmpty = true) : d = .empty := by
  cases d
  simp only [isEmpty, List.isEmpty_iff] at h
  subst h
  rfl

theorem ofList_entries {α : Type} (d : Dict α) : ofList d.entries = d :=
  ext_get? fun key => by
    rw [ofList, get?_foldl_insert _ d.nodup_keys, get?_empty, Option.or_none]
    rfl

end Dict

namespace Json

theorem dict?_ofDict (d : Dict Json) : dict? (.ofDict d) = some d := by
  rw [ofDict, dict?, Dict.ofList_entries]

theorem mapM_map_of_read {α β γ : Type} {f : β → Option γ} {g : α → β} {k : α → γ}
    (h : ∀ x, f (g x) = some (k x)) (xs : List α) : (xs.map g).mapM f = some (xs.map k) := by
  induction xs with
  | nil => rfl
  | cons x xs ih => simp [h, ih]

theorem list?_ofStrings (texts : List String) : list? string? (.ofStrings texts) = some texts := by
  have hread := mapM_map_of_read (f := string?) (g := Json.string) (k := id) (fun _ => rfl) texts
  rw [ofStrings, list?, hread, List.map_id]

theorem dictOf?_ofDict {α : Type} {read : Json → Option α} {write : α → Json}
    (h : ∀ value, read (write value) = some value) (d : Dict α) :
    dictOf? read (.ofDict (d.map write)) = some d := by
  have hread := mapM_map_of_read
    (f := fun member : String × Json => (read member.2).map (member.1, ·))
    (g := fun entry : String × α => (entry.1, write entry.2)) (k := id)
    (fun entry => by rw [h]; rfl) d.entries
  rw [ofDict, dictOf?, Dict.map, hread, List.map_id]
  exact congrArg some (Dict.ofList_entries d)

end Json

end DeviceGraph
