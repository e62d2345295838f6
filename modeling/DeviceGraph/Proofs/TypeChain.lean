import DeviceGraph.TypeChain
import Mathlib.Data.List.Infix

/-!
# Type chains are cut where they were joined

A list of types is clean when no type is empty or holds the separator, and none
but the last ends in a colon, which would move the cut behind it. Joining a list
and cutting the result gives the list back exactly when the list is clean. Types
that any chain is cut into are never empty and hold no separator.
-/

set_option autoImplicit false

namespace DeviceGraph.TypeChain

def joint : List Char := [':', ':']

def rejoin : List (List Char) → List Char
  | [] => []
  | [type] => type
  | type :: next :: rest => type ++ joint ++ rejoin (next :: rest)

def Clean : List (List Char) → Prop
  | [] => True
  | [type] => type ≠ [] ∧ ¬ joint <:+: type
  | type :: next :: rest =>
    type ≠ [] ∧ ¬ joint <:+: type ∧ type.getLast? ≠ some ':' ∧ Clean (next :: rest)

theorem clean_iff (types : List (List Char)) :
    Clean types ↔ (∀ type ∈ types, type ≠ [] ∧ ¬ joint <:+: type) ∧
      ∀ type ∈ types.dropLast, type.getLast? ≠ some ':' := by
  induction types with
  | nil => simp [Clean]
  | cons type rest ih =>
    cases rest with
    | nil => simp [Clean]
    | cons next rest =>
      simp only [Clean, ih, List.dropLast_cons_cons, List.forall_mem_cons]
      tauto

theorem clean_texts_iff (types : List String) :
    Clean (types.map String.toList) ↔
      (∀ type ∈ types, type ≠ "" ∧ ¬ joint <:+: type.toList) ∧
        ∀ type ∈ types.dropLast, type.toList.getLast? ≠ some ':' := by
  rw [clean_iff, ← List.map_dropLast, List.forall_mem_map, List.forall_mem_map]
  simp only [ne_eq, String.toList_eq_nil_iff]

theorem pieces_cons_of_not_joint {c : Char} {rest : List Char}
    (h : ∀ tail, c :: rest ≠ joint ++ tail) :
    pieces (c :: rest) = Text.pushFront c (pieces rest) := by
  rw [pieces.eq_def]
  split
  · next tail heq => exact absurd heq (h tail)
  · next heq =>
    cases heq
    rfl
  · next heq => cases heq

theorem ne_joint_append {text : List Char} (h : ¬ joint <:+: text) (tail : List Char) :
    text ≠ joint ++ tail :=
  fun he => h ⟨[], tail, he.symm⟩

theorem pieces_of_no_joint {text : List Char} (h : ¬ joint <:+: text) : pieces text = [text] := by
  induction text with
  | nil => rfl
  | cons c rest ih =>
    rw [pieces_cons_of_not_joint (ne_joint_append h),
      ih fun hr => h (List.infix_cons hr)]
    rfl

/-- A type that does not end in a colon cannot move the cut behind it. -/
theorem not_joint_append {c : Char} {type : List Char} (hj : ¬ joint <:+: c :: type)
    (hl : (c :: type).getLast? ≠ some ':') (rest tail : List Char) :
    c :: (type ++ joint ++ rest) ≠ joint ++ tail := by
  cases type with
  | nil =>
    intro he
    simp_all [joint]
  | cons d type =>
    intro he
    apply ne_joint_append hj type
    simp_all [joint]

theorem pieces_append_joint {type : List Char} (hj : ¬ joint <:+: type)
    (hl : type.getLast? ≠ some ':') (rest : List Char) :
    pieces (type ++ joint ++ rest) = type :: pieces rest := by
  induction type with
  | nil => rfl
  | cons c type ih =>
    have htail : type.getLast? ≠ some ':' := by
      cases type with
      | nil => simp
      | cons d type => simpa using hl
    rw [List.cons_append, List.cons_append, pieces_cons_of_not_joint (not_joint_append hj hl rest),
      ih (fun hr => hj (List.infix_cons hr)) htail]
    rfl

theorem pieces_rejoin {types : List (List Char)} (h : Clean types) (hne : types ≠ []) :
    pieces (rejoin types) = types := by
  induction types with
  | nil => exact absurd rfl hne
  | cons type rest ih =>
    cases rest with
    | nil => exact pieces_of_no_joint h.2
    | cons next rest =>
      obtain ⟨_, hj, hl, hrest⟩ := h
      rw [rejoin, pieces_append_joint hj hl, ih hrest (by simp)]

theorem toList_join (types : List String) :
    (join types).toList = rejoin (types.map String.toList) := by
  induction types with
  | nil => rfl
  | cons type rest ih =>
    cases rest with
    | nil => rfl
    | cons next rest =>
      rw [join, Text.join, String.toList_append, String.toList_append]
      rw [join] at ih
      rw [ih]
      rfl

theorem split_join {types : List String} (h : Clean (types.map String.toList)) :
    split (join types) = types := by
  by_cases hne : types = []
  · rw [hne]
    rfl
  · rw [split, toList_join, pieces_rejoin h (by simpa using hne), List.filter_eq_self.mpr]
    · simp [Function.comp_def]
    · intro type hm
      simpa using (((clean_iff _).mp h).1 type hm).1

/-! ## Types of any chain -/

theorem first_piece {s p : List Char} {ps : List (List Char)} (h : pieces s = p :: ps) :
    p <+: s := by
  fun_induction pieces s generalizing p ps with
  | case1 rest => exact (List.cons.inj h).1 ▸ List.nil_prefix
  | case2 c rest _ ih =>
    cases hr : pieces rest with
    | nil =>
      rw [hr] at h
      exact (List.cons.inj h).1 ▸ ⟨rest, rfl⟩
    | cons q qs =>
      rw [hr] at h
      exact (List.cons.inj h).1 ▸ List.cons_prefix_cons.mpr ⟨rfl, ih hr⟩
  | case3 => exact (List.cons.inj h).1 ▸ List.nil_prefix

/-- Cutting from the left leaves no joint in a piece. -/
theorem not_joint_of_mem_pieces {s piece : List Char} (h : piece ∈ pieces s) :
    ¬ joint <:+: piece := by
  fun_induction pieces s generalizing piece with
  | case1 rest ih =>
    rcases List.mem_cons.mp h with rfl | h
    · simp [joint]
    · exact ih h
  | case2 c rest hne ih =>
    cases hr : pieces rest with
    | nil =>
      rw [hr, Text.pushFront, List.mem_singleton] at h
      simp [h, joint, List.infix_cons_iff]
    | cons p ps =>
      rw [hr] at h ih
      rcases List.mem_cons.mp h with rfl | h
      · intro hj
        rcases List.infix_cons_iff.mp hj with hj | hj
        · -- a joint in front of the piece would stand in front of the text and be cut off
          obtain ⟨tail, he⟩ := hj.trans (List.cons_prefix_cons.mpr ⟨rfl, first_piece hr⟩)
          obtain ⟨hc, htail⟩ := List.cons.inj he.symm
          exact hne tail hc htail
        · exact ih List.mem_cons_self hj
      · exact ih (List.mem_cons_of_mem p h)
  | case3 =>
    rw [List.mem_singleton.mp h]
    simp [joint]

theorem length_split (chain : String) :
    (split chain).length = ((pieces chain.toList).filter (· ≠ [])).length := List.length_map _

theorem of_mem_split {chain type : String} (h : type ∈ split chain) :
    type ≠ "" ∧ ¬ joint <:+: type.toList := by
  obtain ⟨piece, hp, rfl⟩ := List.mem_map.mp h
  obtain ⟨hm, hne⟩ := List.mem_filter.mp hp
  rw [String.toList_ofList]
  refine ⟨fun he => ?_, not_joint_of_mem_pieces hm⟩
  have hl := congrArg String.toList he
  rw [String.toList_ofList] at hl
  simp [hl] at hne

/-! ## Chains that are cut into what was joined -/

theorem pieces_ne_nil (s : List Char) : pieces s ≠ [] := by
  fun_induction pieces s with
  | case1 rest => simp
  | case2 c rest => cases pieces rest <;> simp [Text.pushFront]
  | case3 => simp

theorem rejoin_pieces (s : List Char) : rejoin (pieces s) = s := by
  fun_induction pieces s with
  | case1 rest ih =>
    obtain ⟨p, ps, hp⟩ := List.exists_cons_of_ne_nil (pieces_ne_nil rest)
    rw [hp, rejoin, ← hp, ih]
    rfl
  | case2 c rest _ ih =>
    obtain ⟨p, ps, hp⟩ := List.exists_cons_of_ne_nil (pieces_ne_nil rest)
    rw [hp] at ih ⊢
    cases ps <;> simpa [Text.pushFront, rejoin] using ih
  | case3 => rfl

/-- A piece that ended in a colon would have been cut in front of it. -/
theorem getLast?_of_mem_dropLast {s piece : List Char} (h : piece ∈ (pieces s).dropLast) :
    piece.getLast? ≠ some ':' := by
  fun_induction pieces s generalizing piece with
  | case1 rest ih =>
    rw [List.dropLast_cons_of_ne_nil (pieces_ne_nil rest)] at h
    rcases List.mem_cons.mp h with rfl | h
    · simp
    · exact ih h
  | case2 c rest hne ih =>
    obtain ⟨p, ps, hp⟩ := List.exists_cons_of_ne_nil (pieces_ne_nil rest)
    have hrest := rejoin_pieces rest
    rw [hp] at h ih hrest
    cases ps with
    | nil => cases h
    | cons q qs =>
      rw [Text.pushFront, List.dropLast_cons_cons] at h
      rcases List.mem_cons.mp h with rfl | h
      · cases p with
        | nil =>
          -- the colon would stand in front of the joint and begin an earlier one
          intro hc
          exact hne (':' :: rejoin (q :: qs)) (by simpa using hc) hrest.symm
        | cons d p => simpa using ih List.mem_cons_self
      · exact ih (List.mem_cons_of_mem _ h)
  | case3 => cases h

theorem length_rejoin {types : List (List Char)} (h : types ≠ []) :
    (rejoin types).length + 2 = types.flatten.length + 2 * types.length := by
  induction types with
  | nil => exact absurd rfl h
  | cons type rest ih =>
    cases rest with
    | nil => simp [rejoin]
    | cons next rest =>
      have hrest := ih (by simp)
      simp only [rejoin, joint, List.length_append, List.flatten_cons, List.length_cons,
        List.length_nil] at *
      omega

/-- No piece is dropped where all types are found: a dropped piece would leave the joints
around it, which the joined types do not have. -/
theorem pieces_rejoin_of_kept {types : List (List Char)} (hne : types ≠ [])
    (h : (pieces (rejoin types)).filter (· ≠ []) = types) : pieces (rejoin types) = types := by
  have hcut := length_rejoin (pieces_ne_nil (rejoin types))
  have hjoined := length_rejoin hne
  have hflat : types.flatten = (pieces (rejoin types)).flatten := by
    rw [← List.flatten_filter_ne_nil (L := pieces (rejoin types)), h]
  have hlength : ((pieces (rejoin types)).filter (· ≠ [])).length =
      (pieces (rejoin types)).length := by
    rw [rejoin_pieces] at hcut
    rw [hflat] at hjoined
    rw [h]
    omega
  exact (List.filter_eq_self.mpr (List.length_filter_eq_length_iff.mp hlength)).symm.trans h

theorem clean_of_kept {types : List (List Char)}
    (h : (pieces (rejoin types)).filter (· ≠ []) = types) : Clean types := by
  by_cases hne : types = []
  · rw [hne]
    trivial
  · have hpieces := pieces_rejoin_of_kept hne h
    rw [clean_iff]
    constructor
    · intro type hm
      rw [← h] at hm
      obtain ⟨hpiece, hnonempty⟩ := List.mem_filter.mp hm
      exact ⟨by simpa using hnonempty, not_joint_of_mem_pieces hpiece⟩
    · intro type hm
      rw [← hpieces] at hm
      exact getLast?_of_mem_dropLast hm

/-- A list of types is found again in its chain exactly when no type is empty or holds the
separator, and none but the last ends in a colon. -/
theorem split_join_eq_iff (types : List String) :
    split (join types) = types ↔ (∀ type ∈ types, type ≠ "" ∧ ¬ joint <:+: type.toList) ∧
      ∀ type ∈ types.dropLast, type.toList.getLast? ≠ some ':' := by
  rw [← clean_texts_iff]
  constructor
  · intro h
    apply clean_of_kept
    rw [← toList_join]
    have hkept := congrArg (List.map String.toList) h
    rw [split, List.map_map] at hkept
    simpa [Function.comp_def] using hkept
  · exact split_join

example : split (join ["bus:", "device"]) = ["bus", ":device"] := by decide

end DeviceGraph.TypeChain
