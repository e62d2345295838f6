import DeviceGraph.Node.Basic
import DeviceGraph.Proofs.Dict
import Mathlib.Data.List.Forall2

/-!
# Links

Links are kept by direction and by relation, and every relation lists what was added to it
in the order of the additions. So whatever order links are added in, the same relations are
there in the end, and the lists differ in no more than their order.
-/

set_option autoImplicit false

namespace DeviceGraph

/-- What every step of a run keeps at the end of a list is in the list in the end, in the order
of the steps. -/
theorem foldl_collects {σ α β : Type} (collected : σ → List β) {step : σ → α → σ} {p : α → Prop}
    [DecidablePred p] {value : α → β}
    (hstep : ∀ s a, collected (step s a) = collected s ++ if p a then [value a] else [])
    (s : σ) (steps : List α) :
    collected (steps.foldl step s) = collected s ++ (steps.filter p).map value := by
  induction steps generalizing s with
  | nil => exact (List.append_nil _).symm
  | cons a steps ih =>
    rw [List.foldl_cons, ih, hstep]
    by_cases h : p a <;> simp [h]

/-! ## Lists under sorted keys -/

namespace Entries

variable {α : Type}

abbrev Sorted (entries : List (String × α)) : Prop := entries.Pairwise fun a b => a.1 < b.1

theorem Sorted.nodup_keys {entries : List (String × α)} (h : Sorted entries) :
    (entries.map (·.1)).Nodup := Dict.nodup_keys ⟨entries, h⟩

/-- Appending a value under a key puts nothing else under any key. -/
theorem mem_of_mem_append {key : String} {value x : α} {entries : List (String × List α)}
    {entry : String × List α} (h : entry ∈ append key value entries) (hx : x ∈ entry.2) :
    x = value ∨ ∃ old ∈ entries, x ∈ old.2 := by
  rcases mem_insert h with rfl | h
  · rcases List.mem_append.mp hx with hx | hx
    · cases hg : get? key entries with
      | none => simp [hg] at hx
      | some old =>
        rw [hg, Option.getD_some] at hx
        exact .inr ⟨(key, old), mem_of_get? hg, hx⟩
    · exact .inl (List.mem_singleton.mp hx)
  · exact .inr ⟨entry, h, hx⟩

theorem get?_append (key other : String) (value : α) (entries : List (String × List α)) :
    get? other (append key value entries) =
      if other = key then some ((get? key entries).getD [] ++ [value]) else get? other entries := by
  by_cases h : other = key
  · rw [if_pos h, h, append, get?_insert_self]
  · rw [if_neg h, append, get?_insert_of_ne h]

theorem getD_get?_append (key other : String) (value : α) (entries : List (String × List α)) :
    (get? other (append key value entries)).getD [] =
      (get? other entries).getD [] ++ if key = other then [value] else [] := by
  rw [get?_append]
  by_cases h : other = key
  · subst h
    simp
  · simp [h, Ne.symm h]

theorem mem_keys_append (key other : String) (value : α) (entries : List (String × List α)) :
    other ∈ (append key value entries).map (·.1) ↔ other = key ∨ other ∈ entries.map (·.1) := by
  rw [← not_iff_not, not_or, ← get?_eq_none_iff, ← get?_eq_none_iff, get?_append]
  by_cases h : other = key <;> simp [h]

theorem get?_eq_none_of_lt {key : String} {entries : List (String × α)}
    (h : ∀ entry ∈ entries, key < entry.1) : get? key entries = none := by
  rw [get?_eq_none_iff]
  intro hm
  obtain ⟨entry, he, heq⟩ := List.mem_map.mp hm
  have hlt := h entry he
  rw [heq] at hlt
  exact String.lt_irrefl key hlt

/-- Of what is made of keys and values, what belongs to one key is made of its values. -/
theorem filter_flatMap_map {β : Type} {entries : List (String × List α)}
    (h : Sorted entries) {key : String} (f : String → α → β) {p : β → Bool}
    (hp : ∀ name x, p (f name x) = decide (name = key)) :
    (entries.flatMap fun entry => entry.2.map (f entry.1)).filter p =
      ((get? key entries).getD []).map (f key) := by
  induction entries with
  | nil => rfl
  | cons entry entries ih =>
    obtain ⟨hfirst, hrest⟩ := List.pairwise_cons.mp h
    rw [List.flatMap_cons, List.filter_append, ih hrest, List.filter_map, get?]
    by_cases hkey : key = entry.1
    · subst hkey
      rw [get?_eq_none_of_lt hfirst]
      simp [Function.comp_def, hp]
    · simp [Function.comp_def, hp, hkey, Ne.symm hkey]

/-- Every value with a direction and its key. -/
def directed (direction : Direction) (entries : List (String × List α)) :
    List (Direction × String × α) :=
  entries.flatMap fun entry => entry.2.map fun x => (direction, entry.1, x)

theorem direction_of_mem_directed {direction : Direction} {entries : List (String × List α)}
    {a : Direction × String × α} (h : a ∈ directed direction entries) : a.1 = direction := by
  obtain ⟨entry, -, ha⟩ := List.mem_flatMap.mp h
  obtain ⟨x, -, rfl⟩ := List.mem_map.mp ha
  rfl

theorem filter_directed {entries : List (String × List α)} (h : Sorted entries)
    (direction : Direction) (chosen : Direction → Prop) [DecidablePred chosen] (key : String) :
    (directed direction entries).filter (fun a => chosen a.1 ∧ a.2.1 = key) =
      if chosen direction then ((get? key entries).getD []).map fun x => (direction, key, x)
      else [] := by
  by_cases hchosen : chosen direction
  · rw [if_pos hchosen]
    exact filter_flatMap_map h (fun name x => (direction, name, x)) fun name x => by simp [hchosen]
  · rw [if_neg hchosen, List.filter_eq_nil_iff]
    intro a ha
    simp [direction_of_mem_directed ha, hchosen]

/-- A list takes the place of the one that stood under its key. -/
theorem perm_flatMap_insert {entries : List (String × List α)} (h : Sorted entries) (key : String)
    (value : List α) : ((insert key value entries).flatMap (·.2) ++ (get? key entries).getD []).Perm
      (value ++ entries.flatMap (·.2)) := by
  fun_induction insert key value entries with
  | case1 => simp [get?]
  | case2 v rest =>
    simp only [get?, List.flatMap_cons, Option.getD_some, if_pos, List.append_assoc]
    exact List.perm_append_comm.append_left value
  | case3 k v rest hne hlt =>
    have hnone : get? key ((k, v) :: rest) = none := by
      refine get?_eq_none_of_lt (List.forall_mem_cons.mpr ⟨hlt, fun entry he => ?_⟩)
      exact String.lt_trans hlt ((List.pairwise_cons.mp h).1 entry he)
    rw [hnone, Option.getD_none, List.append_nil]
    exact .refl _
  | case4 k v rest hne hlt ih =>
    have hrest := (ih (List.pairwise_cons.mp h).2).append_left v
    rw [get?, if_neg hne, List.flatMap_cons, List.flatMap_cons, List.append_assoc]
    refine hrest.trans ?_
    rw [← List.append_assoc, ← List.append_assoc]
    exact List.perm_append_comm.append_right _

/-- An appended value is one more value. -/
theorem perm_flatMap_append {entries : List (String × List α)} (h : Sorted entries) (key : String)
    (value : α) :
    ((append key value entries).flatMap (·.2)).Perm (value :: entries.flatMap (·.2)) := by
  have hinsert := perm_flatMap_insert h key ((get? key entries).getD [] ++ [value])
  rw [List.append_assoc] at hinsert
  exact (List.perm_append_left_iff _).mp (List.perm_append_comm.trans hinsert)

/-- Entries are determined by their keys and the values under them. -/
theorem eq_map_get? {entries : List (String × List α)} (h : Sorted entries) :
    entries = (entries.map (·.1)).map fun key => (key, (get? key entries).getD []) := by
  rw [List.map_map]
  refine (List.map_id entries).symm.trans (List.map_congr_left fun entry hm => ?_)
  have hget := (get?_eq_some_iff h.nodup_keys entry.1 entry.2).mpr hm
  rw [Function.comp_apply, hget]
  rfl

/-- Two sorted lists with the same keys, and related values under each, are related. -/
theorem forall₂_of_get? {entries others : List (String × List α)} (h : Sorted entries)
    (g : Sorted others) (hkeys : ∀ key, key ∈ entries.map (·.1) ↔ key ∈ others.map (·.1))
    {R : List α → List α → Prop}
    (hvalues : ∀ key, R ((get? key entries).getD []) ((get? key others).getD [])) :
    List.Forall₂ (fun entry other => entry.1 = other.1 ∧ R entry.2 other.2) entries others := by
  have hperm := (List.perm_ext_iff_of_nodup h.nodup_keys g.nodup_keys).mpr hkeys
  have hsorted : (entries.map (·.1)).Pairwise (· < ·) := List.pairwise_map.mpr h
  have hsame : entries.map (·.1) = others.map (·.1) := hperm.eq_of_pairwise
    (fun a b _ _ hab hba => absurd (String.lt_trans hab hba) (String.lt_irrefl a)) hsorted
    (List.pairwise_map.mpr g)
  rw [eq_map_get? h, eq_map_get? g, hsame, List.forall₂_map_left_iff, List.forall₂_map_right_iff,
    List.forall₂_same]
  exact fun key _ => ⟨rfl, hvalues key⟩

end Entries

namespace Links

variable {α : Type}

/-! ## One link -/

theorem mem_targets_iff (links : Links α) (x : α) :
    x ∈ links.targets ↔ ∃ direction, ∃ entry ∈ (links.side direction).getD [], x ∈ entry.2 := by
  have hall : ∀ direction, direction ∈ Direction.all := by
    intro direction
    cases direction <;> decide
  simp [targets, entries, List.mem_flatMap, hall]

theorem mem_targets_of_mem_get {links : Links α} {direction : Direction} {relation : String}
    {x : α} (h : x ∈ links.get direction relation) : x ∈ links.targets := by
  rw [get] at h
  cases hside : Entries.get? relation ((links.side direction).getD []) with
  | none => simp [hside] at h
  | some others =>
    rw [hside, Option.getD_some] at h
    exact (mem_targets_iff links x).mpr ⟨direction, _, Entries.mem_of_get? hside, h⟩

theorem side_setSide (links : Links α) (direction other : Direction)
    (side : List (String × List α)) :
    (links.setSide direction side).side other =
      if other = direction then some side else links.side other := by
  cases direction <;> cases other <;> rfl

theorem side_add (links : Links α) (direction other : Direction) (relation : String) (x : α) :
    (links.add direction relation x).side other =
      if other = direction then some (Entries.append relation x ((links.side direction).getD []))
      else links.side other := side_setSide links direction other _

theorem mem_targets_add {links : Links α} {direction : Direction} {relation : String} {x other : α}
    (h : x ∈ (links.add direction relation other).targets) : x = other ∨ x ∈ links.targets := by
  obtain ⟨d, entry, he, hx⟩ := (mem_targets_iff _ x).mp h
  rw [side_add] at he
  by_cases hd : d = direction
  · rw [if_pos hd, Option.getD_some] at he
    refine (Entries.mem_of_mem_append he hx).imp_right ?_
    rintro ⟨old, ho, hold⟩
    exact (mem_targets_iff links x).mpr ⟨direction, old, ho, hold⟩
  · rw [if_neg hd] at he
    exact .inr ((mem_targets_iff links x).mpr ⟨d, entry, he, hx⟩)

/-- A link is added behind those of its direction and relation. -/
theorem get_add (links : Links α) (direction d : Direction) (relation r : String) (x : α) :
    (links.add direction relation x).get d r =
      links.get d r ++ if direction = d ∧ relation = r then [x] else [] := by
  rw [get, get, side_add]
  by_cases hd : d = direction
  · subst hd
    rw [if_pos rfl, Option.getD_some, Entries.getD_get?_append]
    simp only [true_and]
  · rw [if_neg hd, if_neg fun h => hd h.1.symm, List.append_nil]

def Sorted (links : Links α) : Prop := ∀ direction, Entries.Sorted ((links.side direction).getD [])

theorem sorted_empty : Sorted ({} : Links α) := fun direction => by
  cases direction <;> exact .nil

theorem Sorted.add {links : Links α} (h : links.Sorted) (direction : Direction) (relation : String)
    (x : α) : (links.add direction relation x).Sorted := by
  intro other
  rw [side_add]
  by_cases hd : other = direction
  · rw [if_pos hd]
    exact Entries.sorted_insert relation _ (h direction)
  · rw [if_neg hd]
    exact h other

theorem targets_eq (links : Links α) : links.targets =
    (links.incoming.getD []).flatMap (·.2) ++
      ((links.outgoing.getD []).flatMap (·.2) ++ (links.both.getD []).flatMap (·.2)) := by
  simp [targets, entries, Direction.all, side, List.flatMap_map]

theorem perm_targets_add {links : Links α} (h : links.Sorted) (direction : Direction)
    (relation : String) (x : α) :
    (links.add direction relation x).targets.Perm (x :: links.targets) := by
  have hside := Entries.perm_flatMap_append (h direction) relation x
  rw [targets_eq, targets_eq]
  cases direction with
  | incoming => exact hside.append_right _
  | outgoing => exact ((hside.append_right _).append_left _).trans List.perm_middle
  | both =>
    exact (((hside.append_left _).trans List.perm_middle).append_left _).trans List.perm_middle

/-! ## Many links -/

def addAll (links : Links α) (added : List (Direction × String × α)) : Links α :=
  added.foldl (fun links a => links.add a.1 a.2.1 a.2.2) links

theorem get_addAll (links : Links α) (added : List (Direction × String × α)) (direction : Direction)
    (relation : String) : (links.addAll added).get direction relation =
      links.get direction relation ++
        (added.filter fun a => a.1 = direction ∧ a.2.1 = relation).map (·.2.2) :=
  foldl_collects (fun links => links.get direction relation)
    (fun links a => get_add links a.1 direction a.2.1 relation a.2.2) links added

theorem Sorted.addAll {links : Links α} (h : links.Sorted)
    (added : List (Direction × String × α)) : (links.addAll added).Sorted := by
  induction added generalizing links with
  | nil => exact h
  | cons a added ih => exact ih (h.add a.1 a.2.1 a.2.2)

theorem perm_targets_addAll {links : Links α} (h : links.Sorted)
    (added : List (Direction × String × α)) :
    (links.addAll added).targets.Perm (added.map (·.2.2) ++ links.targets) := by
  induction added generalizing links with
  | nil => exact .refl _
  | cons a added ih =>
    have hstep := (perm_targets_add h a.1 a.2.1 a.2.2).append_left (added.map (·.2.2))
    exact ((ih (h.add a.1 a.2.1 a.2.2)).trans hstep).trans List.perm_middle

theorem get_addAll_empty (added : List (Direction × String × α)) (direction : Direction)
    (relation : String) : (addAll {} added).get direction relation =
      (added.filter fun a => a.1 = direction ∧ a.2.1 = relation).map (·.2.2) := by
  have hnone : get ({} : Links α) direction relation = [] := by cases direction <;> rfl
  rw [get_addAll, hnone, List.nil_append]

theorem perm_targets_addAll_empty (added : List (Direction × String × α)) :
    (addAll {} added).targets.Perm (added.map (·.2.2)) := by
  have hperm := perm_targets_addAll sorted_empty added
  have hnone : targets ({} : Links α) = [] := rfl
  rwa [hnone, List.append_nil] at hperm

theorem length_targets_addAll_empty (added : List (Direction × String × α)) :
    (addAll {} added).targets.length = added.length :=
  (perm_targets_addAll_empty added).length_eq.trans (List.length_map _)

/-- The sides that were opened. -/
theorem isSome_side_addAll (links : Links α) (added : List (Direction × String × α))
    (direction : Direction) : ((links.addAll added).side direction).isSome ↔
      (links.side direction).isSome ∨ ∃ a ∈ added, a.1 = direction := by
  induction added generalizing links with
  | nil => simp [addAll]
  | cons a added ih =>
    refine (ih (links.add a.1 a.2.1 a.2.2)).trans ?_
    rw [side_add]
    by_cases hd : direction = a.1
    · simp [hd]
    · simp [hd, Ne.symm hd]

/-- The relations that were opened on a side. -/
theorem mem_relations_addAll (links : Links α) (added : List (Direction × String × α))
    (direction : Direction) (relation : String) :
    relation ∈ (((links.addAll added).side direction).getD []).map (·.1) ↔
      relation ∈ ((links.side direction).getD []).map (·.1) ∨
        ∃ a ∈ added, a.1 = direction ∧ a.2.1 = relation := by
  induction added generalizing links with
  | nil => simp [addAll]
  | cons a added ih =>
    refine (ih (links.add a.1 a.2.1 a.2.2)).trans ?_
    rw [side_add]
    by_cases hd : direction = a.1
    · subst hd
      rw [if_pos rfl, Option.getD_some, Entries.mem_keys_append, List.exists_mem_cons_iff]
      simp only [true_and, eq_comm, or_assoc, or_left_comm]
    · rw [if_neg hd, List.exists_mem_cons_iff]
      simp only [Ne.symm hd, false_and, false_or]

/-! ## The order of additions -/

/-- The same relations on the same sides, with the same links in each up to their order. -/
def Reordered (links others : Links α) : Prop :=
  ∀ direction, Option.Rel
    (List.Forall₂ fun entry other => entry.1 = other.1 ∧ entry.2.Perm other.2)
    (links.side direction) (others.side direction)

theorem reordered_addAll {added others : List (Direction × String × α)} (h : added.Perm others) :
    Reordered (addAll {} added) (addAll {} others) := by
  intro direction
  have hsome : ((addAll {} added).side direction).isSome ↔
      ((addAll {} others).side direction).isSome := by
    simp only [isSome_side_addAll, h.mem_iff]
  have hvalues : ∀ relation, ((addAll {} added).get direction relation).Perm
      ((addAll {} others).get direction relation) := by
    intro relation
    rw [get_addAll, get_addAll]
    exact ((h.filter _).map _).append_left _
  have hentries := Entries.forall₂_of_get? (sorted_empty.addAll added direction)
    (sorted_empty.addAll others direction)
    (fun relation => by simp only [mem_relations_addAll, h.mem_iff]) hvalues
  cases ha : (addAll {} added).side direction with
  | none =>
    cases hb : (addAll {} others).side direction with
    | none => exact .none
    | some side => simp [ha, hb] at hsome
  | some side =>
    cases hb : (addAll {} others).side direction with
    | none => simp [ha, hb] at hsome
    | some other =>
      rw [ha, hb] at hentries
      exact .some hentries

end Links

namespace Node

theorem eq_of_unlinked {n : Node} (h : n.links = {}) : { n with links := {} } = n := by
  cases n
  cases h
  rfl

theorem foldl_addLink {β : Type} (added : β → Direction × String × Node) (xs : List β) (n : Node) :
    xs.foldl (fun n x => n.addLink (added x).1 (added x).2.1 (added x).2.2) n =
      { n with links := n.links.addAll (xs.map added) } := by
  induction xs generalizing n with
  | nil =>
    cases n
    rfl
  | cons x xs ih => exact ih _

end Node

end DeviceGraph
