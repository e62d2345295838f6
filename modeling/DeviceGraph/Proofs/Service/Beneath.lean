import DeviceGraph.Proofs.Service.Guard

/-!
# Groups stand beneath the groups above them

A group without a path of its own gets one: the path of the group above, a slash and its name in
lower case. The name is never looked at, and the path that it makes is never empty, so that the
check of paths does not find a missing one. With a name the group stands strictly beneath the one
above. Without a name its path ends in the slash, and it is `/` itself at the top, where not even
the edge to the group above is left.
-/

set_option autoImplicit false

namespace DeviceGraph

namespace Text

/-! ## Lower case -/

theorem lowerChar_ne_nil (c : Char) : lowerChar c ≠ [] := by
  unfold lowerChar
  split <;> simp

theorem lowerAfter_eq_nil_iff (before s : List Char) : lowerAfter before s = [] ↔ s = [] := by
  cases s with
  | nil => simp [lowerAfter]
  | cons c rest =>
    have hfirst : lowerAfter before (c :: rest) ≠ [] := by
      rw [lowerAfter]
      split <;> simp [lowerChar_ne_nil]
    exact iff_of_false hfirst (List.cons_ne_nil c rest)

/-- Lower case leaves something of every text that is not empty. -/
theorem lowerCase_eq_empty_iff (s : String) : lowerCase s = "" ↔ s = "" := by
  rw [← String.toList_inj, lowerCase, String.toList_ofList, String.toList_empty,
    lowerAfter_eq_nil_iff, String.toList_eq_nil_iff]

end Text

namespace GroupItem
open Store.Groups (rootPath)

/-! ## Derived paths -/

/-- What stands before the last slash of a path beneath a group: nothing at the top. -/
def stem (parent : String) : String := if parent = "" ∨ parent = rootPath then "" else parent

/-- A path strictly beneath a group, or at the top if there is none above. -/
def Beneath (parent path : String) : Prop :=
  path ≠ rootPath ∧ path ≠ parent ∧ ∃ name, name ≠ "" ∧ path = stem parent ++ "/" ++ name

theorem path_of_derived {item : GroupItem} (h : item.groupPath = "") :
    item.path = stem item.parentPath ++ "/" ++ Text.lowerCase item.name := by
  rw [path, if_neg (not_not.mpr h), stem]
  split
  · rfl
  · rfl

theorem derived_eq_rootPath_iff (base name : String) :
    base ++ "/" ++ name = rootPath ↔ base = "" ∧ name = "" := by
  have hroot : rootPath.toList = ['/'] := rfl
  rw [← String.toList_inj, hroot]
  simp [List.append_eq_singleton_iff]

theorem derived_ne_parent (parent : String) {name : String} (h : name ≠ "") :
    stem parent ++ "/" ++ name ≠ parent := by
  intro hsame
  rw [stem] at hsame
  split at hsame
  · next htop =>
    rcases htop with rfl | rfl
    · simp at hsame
    · exact h ((derived_eq_rootPath_iff "" name).mp hsame).2
  · rw [String.append_assoc, String.append_eq_left_iff] at hsame
    simp at hsame

/-- A derived path is beneath the group above exactly if something follows the last slash. -/
theorem beneath_derived_iff (parent name : String) :
    Beneath parent (stem parent ++ "/" ++ name) ↔ name ≠ "" := by
  constructor
  · rintro ⟨_, _, other, hother, hpath⟩
    rwa [(String.append_right_inj _).mp hpath]
  · intro h
    exact ⟨fun hroot => h ((derived_eq_rootPath_iff _ name).mp hroot).2,
      derived_ne_parent parent h, name, h, rfl⟩

theorem path_eq_rootPath_iff {item : GroupItem} (h : item.groupPath = "") :
    item.path = rootPath ↔
      (item.parentPath = "" ∨ item.parentPath = rootPath) ∧ item.name = "" := by
  have hstem : stem item.parentPath = "" ↔ item.parentPath = "" ∨ item.parentPath = rootPath := by
    rw [stem]
    split
    · next htop => exact iff_of_true rfl htop
    · next htop => exact iff_of_false (fun hp => htop (.inl hp)) htop
  rw [path_of_derived h, derived_eq_rootPath_iff, hstem, Text.lowerCase_eq_empty_iff]

end GroupItem

namespace Service
open GroupItem (Beneath stem)
open Store.Groups (rootPath)

/-! ## Groups that are created -/

/-- The node of an item names the group above, but for the group that stands on top. -/
theorem Groups.parentPath?_toNode_iff {item : GroupItem} (hp : item.parentPath ≠ "")
    (path : String) : Store.Groups.parentPath? item.toNode = some path ↔
      item.path ≠ rootPath ∧ path = item.parentPath := by
  have hstored : item.toNode.attributes.get? Store.Groups.parentProperty =
      some (.string item.parentPath) := by
    rw [GroupItem.toNode, Item.get?_putField, if_neg (by decide), Item.get?_putField, if_pos rfl,
      GroupItem.nonempty?, if_neg hp]
    rfl
  have hid : item.toNode.id = item.path := rfl
  rw [Store.Groups.parentPath?, hstored, hid]
  by_cases hroot : item.path = rootPath
  · simp [hroot]
  · simp [hroot, eq_comm]

theorem Groups.path_of_create {item : GroupItem} {legacy : Bool} {e e' : Engine} {path : String}
    (h : create item legacy e = (.ok path, e')) : path = item.path := by
  rw [create_eq] at h
  obtain ⟨_, _, _, h⟩ := (Session.bind_eq_ok_iff _ _ _ _ _).mp h
  obtain ⟨_, _, _, h⟩ := (Session.bind_eq_ok_iff _ _ _ _ _).mp h
  obtain ⟨_, _, _, h⟩ := (Session.bind_eq_ok_iff _ _ _ _ _).mp h
  exact ((Session.pure_eq_ok_iff _ _ _ _).mp h).1.symm

/-- A group that is created without a path of its own stands strictly beneath the one above
exactly if it has a name. The one above is looked for in the statement that creates it, unless
the path that is made is that of the group on top. -/
theorem Groups.beneath_of_create_iff {item : GroupItem} {legacy : Bool} {e e' : Engine}
    {path : String} (h : create item legacy e = (.ok path, e')) (hderived : item.groupPath = "") :
    path = item.path ∧ path = stem item.parentPath ++ "/" ++ Text.lowerCase item.name ∧
      (Beneath item.parentPath path ↔ item.name ≠ "") ∧
      ∃ s, e'.submitted.getLast? = some s ∧ (item.parentPath ≠ "" →
        ∀ parentId, s.Opens parentId ↔ Identity.groupId item.parentPath = .ok parentId ∧
          ¬ (item.parentPath = rootPath ∧ item.name = "")) := by
  have hmade := GroupItem.path_of_derived hderived
  have hpath : path = item.path := path_of_create h
  refine ⟨hpath, hpath.trans hmade, ?_, ?_⟩
  · rw [hpath, hmade, GroupItem.beneath_derived_iff, ne_eq, Text.lowerCase_eq_empty_iff]
  · obtain ⟨_, e₁, vertexId, _, hrun⟩ := run_of_create h
    obtain ⟨s, hs, hsubmitted⟩ := Store.Creation.made_of_run hrun
    refine ⟨s, by rw [hsubmitted, List.getLast?_concat], fun hparent parentId => ?_⟩
    rw [Store.opens_createStatement_iff hs]
    simp only [parentPath?_toNode_iff hparent, ne_eq, GroupItem.path_eq_rootPath_iff hderived,
      hparent, false_or]
    constructor
    · rintro ⟨_, ⟨hleft, rfl⟩, hid⟩
      exact ⟨hid, hleft⟩
    · rintro ⟨hid, hleft⟩
      exact ⟨_, ⟨hleft, rfl⟩, hid⟩

theorem Groups.beneath_of_create_north :
    ∃ e', create northItem true euEngine = (.ok "/eu/north", e') ∧
      northItem.groupPath = "" ∧ Beneath northItem.parentPath "/eu/north" := by
  obtain ⟨e', hrun⟩ : ∃ e', create northItem true euEngine = (.ok "/eu/north", e') := ⟨_, rfl⟩
  exact ⟨e', hrun, rfl, (beneath_of_create_iff hrun rfl).2.2.1.mpr (by decide)⟩

def namelessItem (parent : String) : GroupItem where
  templateId := "region"
  parentPath := parent

/-- Without a name a group is created all the same, at the top as the root itself. -/
theorem Groups.nameless_not_beneath :
    (∃ e', create (namelessItem "") true {} = (.ok rootPath, e')) ∧ ¬ Beneath "" rootPath ∧
      (∃ e', create (namelessItem "/eu") true euEngine = (.ok "/eu/", e')) ∧
      ¬ Beneath "/eu" "/eu/" := by
  refine ⟨⟨_, rfl⟩, fun h => h.1 rfl, ⟨_, rfl⟩, fun h => ?_⟩
  exact (GroupItem.beneath_derived_iff "/eu" "").mp h rfl

end Service

end DeviceGraph
