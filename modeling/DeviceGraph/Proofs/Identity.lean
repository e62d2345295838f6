import DeviceGraph.Identity

/-!
# Vertex ids are read back exactly

A list of parts is clean when no part holds the separator and no part but the
last ends in an underscore. Cutting a text at its leftmost separators gives the
only clean list that rejoins to it. So writing and reading an id are two views
of one relation, and an id belongs to one category and one list of keys.
-/

set_option autoImplicit false

namespace DeviceGraph.Identity

def joint : List Char := ['_', '_', '_']

def rejoin : List (List Char) → List Char
  | [] => []
  | part :: rest => part ++ rest.flatMap (joint ++ ·)

def Clean : List (List Char) → Prop
  | [] => False
  | [part] => hasSeparator part = false
  | part :: next :: rest =>
    hasSeparator part = false ∧ part.getLast? ≠ some '_' ∧ Clean (next :: rest)

theorem parts_ne_nil (s : List Char) : parts s ≠ [] := by
  fun_induction parts s with
  | case1 rest ih => simp
  | case2 c rest _ ih => cases hp : parts rest <;> simp [Text.pushFront]
  | case3 => simp

theorem hasSeparator_cons_of_not_joint {c : Char} {rest : List Char}
    (h : ∀ tail, c :: rest ≠ joint ++ tail) : hasSeparator (c :: rest) = hasSeparator rest := by
  rw [hasSeparator.eq_def]
  split
  · next tail heq => exact absurd heq (h tail)
  · next heq => cases heq; rfl
  · next heq => cases heq

theorem parts_cons_of_not_joint {c : Char} {rest : List Char}
    (h : ∀ tail, c :: rest ≠ joint ++ tail) :
    parts (c :: rest) = Text.pushFront c (parts rest) := by
  rw [parts.eq_def]
  split
  · next tail heq => exact absurd heq (h tail)
  · next heq => cases heq; rfl
  · next heq => cases heq

theorem not_joint_of_hasSeparator {c : Char} {rest : List Char}
    (h : hasSeparator (c :: rest) = false) (tail : List Char) : c :: rest ≠ joint ++ tail := by
  intro heq
  rw [heq] at h
  simp [joint, hasSeparator] at h

theorem hasSeparator_tail {c : Char} {rest : List Char}
    (h : hasSeparator (c :: rest) = false) : hasSeparator rest = false := by
  rwa [hasSeparator_cons_of_not_joint (not_joint_of_hasSeparator h)] at h

theorem parts_of_no_separator (s : List Char) (h : hasSeparator s = false) : parts s = [s] := by
  induction s with
  | nil => rfl
  | cons c rest ih =>
    rw [parts_cons_of_not_joint (not_joint_of_hasSeparator h), ih (hasSeparator_tail h)]
    rfl

/-- A part that holds no separator and does not end in an underscore cannot
move the cut of the separator behind it. -/
theorem not_joint_append {c : Char} {part : List Char}
    (hs : hasSeparator (c :: part) = false) (hl : (c :: part).getLast? ≠ some '_')
    (rest tail : List Char) : c :: (part ++ joint ++ rest) ≠ joint ++ tail := by
  match part with
  | [] =>
    intro heq
    simp_all [joint]
  | [d] =>
    intro heq
    simp_all [joint]
  | d :: e :: part =>
    intro heq
    apply not_joint_of_hasSeparator hs part
    simp_all [joint]

theorem parts_append_joint (part rest : List Char) (hs : hasSeparator part = false)
    (hl : part.getLast? ≠ some '_') : parts (part ++ joint ++ rest) = part :: parts rest := by
  induction part with
  | nil => rfl
  | cons c part ih =>
    have htail : part.getLast? ≠ some '_' := by
      cases part with
      | nil => simp
      | cons d part => simpa using hl
    rw [List.cons_append, List.cons_append, parts_cons_of_not_joint (not_joint_append hs hl rest),
      ih (hasSeparator_tail hs) htail]
    rfl

theorem rejoin_cons_cons (part next : List Char) (rest : List (List Char)) :
    rejoin (part :: next :: rest) = part ++ joint ++ rejoin (next :: rest) := by
  simp [rejoin]

theorem parts_rejoin (ps : List (List Char)) (h : Clean ps) : parts (rejoin ps) = ps := by
  induction ps with
  | nil => exact h.elim
  | cons part rest ih =>
    cases rest with
    | nil => simpa [rejoin] using parts_of_no_separator part h
    | cons next rest =>
      obtain ⟨hs, hl, hrest⟩ := h
      rw [rejoin_cons_cons, parts_append_joint part _ hs hl, ih hrest]

theorem rejoin_parts (s : List Char) : rejoin (parts s) = s := by
  fun_induction parts s with
  | case1 rest ih =>
    obtain ⟨next, more, hp⟩ := List.exists_cons_of_ne_nil (parts_ne_nil rest)
    rw [hp, rejoin_cons_cons, ← hp, ih]
    rfl
  | case2 c rest _ ih =>
    obtain ⟨next, more, hp⟩ := List.exists_cons_of_ne_nil (parts_ne_nil rest)
    rw [hp] at ih ⊢
    simpa [Text.pushFront, rejoin] using ih
  | case3 => rfl

/-- A character in front of clean parts belongs to the first of them, unless it
completes a separator. -/
theorem clean_pushFront {c : Char} {rest : List Char} {part : List Char}
    {more : List (List Char)} (h : ∀ tail, c :: rest ≠ joint ++ tail)
    (hr : rest = rejoin (part :: more)) (hc : Clean (part :: more)) :
    Clean ((c :: part) :: more) := by
  have hs : hasSeparator part = false → hasSeparator (c :: part) = false := by
    intro hp
    rw [hasSeparator_cons_of_not_joint, hp]
    intro tail heq
    apply h (tail ++ more.flatMap (joint ++ ·))
    rw [hr, rejoin, ← List.append_assoc, ← heq, List.cons_append]
  cases more with
  | nil => exact hs hc
  | cons next more =>
    obtain ⟨hp, hl, hm⟩ := hc
    refine ⟨hs hp, ?_, hm⟩
    cases part with
    | cons d part => simpa using hl
    | nil =>
      -- an underscore alone in front of the joint would be the start of an earlier one
      intro hlast
      have hc' : c = '_' := by simpa using hlast
      apply h ('_' :: rejoin (next :: more))
      rw [hr, rejoin_cons_cons, hc']
      rfl

theorem clean_parts (s : List Char) : Clean (parts s) := by
  induction s using parts.induct with
  | case1 rest ih =>
    obtain ⟨next, more, hp⟩ := List.exists_cons_of_ne_nil (parts_ne_nil rest)
    rw [parts, hp]
    exact ⟨rfl, by simp, hp ▸ ih⟩
  | case2 c rest hne ih =>
    have h : ∀ tail, c :: rest ≠ joint ++ tail := by
      intro tail heq
      simp only [joint, List.cons_append, List.nil_append, List.cons.injEq] at heq
      exact hne tail heq.1 heq.2
    obtain ⟨next, more, hp⟩ := List.exists_cons_of_ne_nil (parts_ne_nil rest)
    rw [parts_cons_of_not_joint h, hp]
    exact clean_pushFront h (by rw [← hp, rejoin_parts]) (hp ▸ ih)
  | case3 => rfl

/-- Cutting is the inverse of rejoining, exactly on clean lists. -/
theorem parts_eq_iff (s : List Char) (ps : List (List Char)) :
    parts s = ps ↔ Clean ps ∧ s = rejoin ps := by
  constructor
  · rintro rfl
    exact ⟨clean_parts s, (rejoin_parts s).symm⟩
  · rintro ⟨hc, rfl⟩
    exact parts_rejoin ps hc

/-- What it means for a text to be the vertex id of keys. -/
structure Written (category : Category) (keys : List String) (id : String) : Prop where
  count : keys.length = keyCount category
  nonempty : "" ∉ keys
  clean : Clean (keys.map String.toList)
  text : id.toList = rejoin ((idPrefix category :: keys).map String.toList)

theorem clean_cons_idPrefix (category : Category) (keys : List (List Char)) :
    Clean ((idPrefix category).toList :: keys) ↔ keys = [] ∨ Clean keys := by
  cases keys with
  | nil => cases category <;> simp [Clean, idPrefix, hasSeparator]
  | cons key keys => cases category <;> simp [Clean, idPrefix, hasSeparator]

theorem validateKey_eq_ok_iff (key : String) :
    validateKey key = .ok () ↔ key ≠ "" ∧ hasSeparator key.toList = false := by
  by_cases he : key = ""
  · simp [validateKey, he]
  · by_cases hs : hasSeparator key.toList = true <;> simp [validateKey, he, hs]

theorem validateParentKey_eq_ok_iff (key : String) :
    validateParentKey key = .ok () ↔
      validateKey key = .ok () ∧ key.toList.getLast? ≠ some '_' := by
  unfold validateParentKey
  cases validateKey key with
  | error fault => simp [bind, Except.bind]
  | ok _ =>
    by_cases hl : key.toList.getLast? = some '_' <;>
      simp [bind, Except.bind, hl, throw, throwThe, MonadExceptOf.throw, pure, Except.pure]

theorem validateKeys_eq_ok_iff (key : String) (rest : List String) :
    validateKeys (key :: rest) = .ok () ↔
      "" ∉ key :: rest ∧ Clean ((key :: rest).map String.toList) := by
  induction rest generalizing key with
  | nil =>
    rw [validateKeys, validateKey_eq_ok_iff, List.mem_singleton, ne_comm]
    rfl
  | cons next rest ih =>
    have hstep : validateKeys (key :: next :: rest) = .ok () ↔
        validateParentKey key = .ok () ∧ validateKeys (next :: rest) = .ok () := by
      rw [validateKeys]
      cases validateParentKey key <;> simp [bind, Except.bind]
    rw [hstep, ih, validateParentKey_eq_ok_iff, validateKey_eq_ok_iff]
    simp only [List.map_cons, Clean, List.mem_cons, not_or]
    constructor
    · rintro ⟨⟨⟨he, hs⟩, hl⟩, hrest, hc⟩
      exact ⟨⟨Ne.symm he, hrest⟩, hs, hl, hc⟩
    · rintro ⟨⟨he, hrest⟩, hs, hl, hc⟩
      exact ⟨⟨⟨Ne.symm he, hs⟩, hl⟩, hrest, hc⟩

theorem toList_foldl_join (head : String) (keys : List String) :
    (keys.foldl (fun id key => id ++ separator ++ key) head).toList =
      rejoin ((head :: keys).map String.toList) := by
  induction keys generalizing head with
  | nil => simp [rejoin]
  | cons key keys ih =>
    rw [List.foldl_cons, ih]
    simp [rejoin, separator, joint]

theorem encode_eq_ok_iff (category : Category) (keys : List String) (id : String) :
    encode category keys = .ok id ↔ Written category keys id := by
  by_cases hcount : keys.length = keyCount category
  · rw [encode, if_neg (not_not_intro hcount)]
    obtain ⟨key, rest, rfl⟩ : ∃ key rest, keys = key :: rest := by
      cases keys with
      | nil => cases category <;> simp [keyCount] at hcount
      | cons key rest => exact ⟨key, rest, rfl⟩
    have hkeys := validateKeys_eq_ok_iff key rest
    cases hv : validateKeys (key :: rest) with
    | error fault =>
      constructor
      · intro h
        cases h
      · intro h
        rw [hkeys.mpr ⟨h.nonempty, h.clean⟩] at hv
        cases hv
    | ok _ =>
      obtain ⟨hne, hclean⟩ := hkeys.mp hv
      constructor
      · intro h
        cases h
        exact ⟨hcount, hne, hclean, toList_foldl_join _ _⟩
      · intro h
        have hid : (key :: rest).foldl (fun id key => id ++ separator ++ key)
            (idPrefix category) = id := by
          rw [← String.toList_inj, toList_foldl_join, h.text]
        exact congrArg Except.ok hid
  · rw [encode, if_pos hcount]
    constructor
    · intro h
      cases h
    · intro h
      exact absurd h.count hcount

theorem layout?_eq_some_iff (head : String) (count : Nat) (category : Category) :
    layout? head count = some category ↔ idPrefix category = head ∧ keyCount category = count := by
  constructor
  · intro h
    simpa using List.find?_some h
  · rintro ⟨rfl, rfl⟩
    cases category <;> decide

theorem decode_of_parts {id head : String} {keys : List String}
    (h : parts id.toList = (head :: keys).map String.toList) :
    decode id = if keys = [] ∨ "" ∈ keys then .error (.malformedIdentity (.missingParts id))
      else match layout? head keys.length with
        | some category => .ok (category, keys)
        | none => .error (.malformedIdentity (.unknownLayout id)) := by
  have htexts : (parts id.toList).map String.ofList = head :: keys := by
    simp [h, Function.comp_def]
  rw [decode.eq_def, htexts]
  rfl

theorem exists_parts_eq (id : String) :
    ∃ head keys, parts id.toList = (head :: keys).map String.toList := by
  obtain ⟨head, tail, hp⟩ := List.exists_cons_of_ne_nil (parts_ne_nil id.toList)
  refine ⟨String.ofList head, tail.map String.ofList, ?_⟩
  simp [hp, Function.comp_def]

theorem decode_eq_ok_iff (category : Category) (keys : List String) (id : String) :
    decode id = .ok (category, keys) ↔ Written category keys id := by
  constructor
  · intro h
    obtain ⟨head, others, hp⟩ := exists_parts_eq id
    rw [decode_of_parts hp] at h
    by_cases hm : others = [] ∨ "" ∈ others
    · rw [if_pos hm] at h
      cases h
    · rw [if_neg hm] at h
      obtain ⟨hnil, hempty⟩ := not_or.mp hm
      cases hl : layout? head others.length with
      | none =>
        rw [hl] at h
        cases h
      | some found =>
        rw [hl] at h
        cases h
        obtain ⟨rfl, hcount⟩ := (layout?_eq_some_iff _ _ _).mp hl
        obtain ⟨hclean, htext⟩ := (parts_eq_iff _ _).mp hp
        have hkeys := (clean_cons_idPrefix category (keys.map String.toList)).mp hclean
        exact ⟨hcount.symm, hempty, hkeys.resolve_left (by simpa using hnil), htext⟩
  · intro h
    have hp : parts id.toList = (idPrefix category :: keys).map String.toList :=
      (parts_eq_iff _ _).mpr ⟨(clean_cons_idPrefix _ _).mpr (.inr h.clean), h.text⟩
    have hnil : keys ≠ [] := by
      rintro rfl
      exact h.clean
    rw [decode_of_parts hp, if_neg (not_or.mpr ⟨hnil, h.nonempty⟩),
      (layout?_eq_some_iff _ _ _).mpr ⟨rfl, h.count.symm⟩]

theorem decode_of_encode {category : Category} {keys : List String} {id : String}
    (h : encode category keys = .ok id) : decode id = .ok (category, keys) :=
  (decode_eq_ok_iff _ _ _).mpr ((encode_eq_ok_iff _ _ _).mp h)

theorem groupId_inj {path other id : String} (h : groupId path = .ok id)
    (g : groupId other = .ok id) : path = other := by
  have hd := decode_of_encode h
  rw [decode_of_encode g] at hd
  cases hd
  rfl

/-- Writing an id and reading it succeed together and undo each other, and two
different lists of keys never share an id, also where keys touch the separator
with underscores of their own. -/
theorem encode_eq_ok_iff_decode_eq_ok (category : Category) (keys : List String) (id : String) :
    (encode category keys = .ok id ↔ decode id = .ok (category, keys)) ∧
      ∀ (other : Category) (others : List String),
        encode category keys = .ok id → encode other others = .ok id →
          category = other ∧ keys = others := by
  constructor
  · rw [encode_eq_ok_iff, decode_eq_ok_iff]
  · intro other others h ho
    have hd := (decode_eq_ok_iff category keys id).mpr ((encode_eq_ok_iff _ _ _).mp h)
    have hdo := (decode_eq_ok_iff other others id).mpr ((encode_eq_ok_iff _ _ _).mp ho)
    rw [hd] at hdo
    cases hdo
    exact ⟨rfl, rfl⟩

theorem underscored_component_id :
    encode .component ["_d", "_c__"] = .ok "device____d____c__" ∧
      decode "device____d____c__" = .ok (.component, ["_d", "_c__"]) := by
  have h : encode .component ["_d", "_c__"] = .ok "device____d____c__" := by rfl
  exact ⟨h, (encode_eq_ok_iff_decode_eq_ok _ _ _).1.mp h⟩

end DeviceGraph.Identity
