import DeviceGraph.Proofs.Service.Call
import DeviceGraph.Proofs.Service.Creation
import DeviceGraph.Proofs.Store.Opening

/-!
# What must exist is looked for first

A service that changes something, or adds to it, reads the labels of its vertex before it
writes, and goes on only if there is a first row that names two types. The write then finds
the very vertex that was read.
-/

set_option autoImplicit false

namespace DeviceGraph

variable {α β : Type}

namespace Store

def labelsOf (id : Except DomainError String) (legacy : Bool) :
    Session GraphError (Option (List String)) := do
  Store.labels (← Session.ofDomain id) legacy

theorem planned_labelsOf (id : Except DomainError String) (legacy : Bool) :
    Planned (labelsOf id legacy) fun ids => liftDomain id >>= fun vertexId =>
      (EntityCall.labels vertexId legacy).plan ids :=
  .ofExcept_bind fun vertexId => (EntityCall.labels vertexId legacy).planned

theorem writesOnly_of_plan (c : Call α) (hc : c.access = .write) {Kind : Statement → Prop}
    (h : ∀ ids p, c.plan ids = .ok p → ∀ s ∈ p.statement, Kind s) : c.run.WritesOnly Kind := by
  intro e
  cases hp : c.plan e.edgeIds with
  | error err =>
    rw [c.planned.refused e err hp]
    exact ⟨none, .done rfl, fun _ hw => nomatch hw⟩
  | ok p =>
    refine ⟨_, c.planned.converses hp, fun exchange hw => ?_⟩
    obtain ⟨s, hs, rfl⟩ := Option.map_eq_some_iff.mp hw
    obtain ⟨fixed, hmaking⟩ := (c.sound hp).making s hs
    exact ⟨hmaking.access_eq.trans hc, h e.edgeIds p hp s hs⟩

end Store

namespace Service
open Store (labelsOf labelsStatement FindsLabels OpensAt)

def verdict (missing : Missing) :
    Except GraphError (Option (List String)) → Except ServiceError Unit
  | .ok (some _) => .ok ()
  | .ok none => .error (.notFound missing)
  | .error err => .error (.graph err)

theorem verdict_eq_ok_iff {missing : Missing} {found : Except GraphError (Option (List String))} :
    verdict missing found = .ok () ↔ ∃ labels, found = .ok (some labels) := by
  rcases found with _ | _ | _ <;> simp [verdict]

theorem requireLabels_apply (x : Session GraphError (Option (List String))) (missing : Missing)
    (e : Engine) : requireLabels x missing e = (verdict missing (x e).1, (x e).2) := by
  rw [requireLabels, Session.bind_apply, inStore, Session.mapError]
  rcases x e with ⟨_ | _ | _, e₁⟩ <;> rfl

structure Asks (vertexId : String) (legacy : Bool) (missing : Missing) (read : Exchange)
    (result : Except ServiceError Unit) : Prop where
  statement : labelsStatement vertexId = .ok read.1
  found : result = .ok () → FindsLabels vertexId legacy read
  unfound : read.2 = .ok [] → result = .error (.notFound missing)

/-- A guard asks once for the labels of its id, if it has one. -/
theorem requireLabels_asks (id : Except DomainError String) (legacy : Bool) (missing : Missing)
    (e : Engine) :
    (∃ err, requireLabels (labelsOf id legacy) missing e = (.error err, e)) ∨
      ∃ vertexId read, id = .ok vertexId ∧
        Engine.Converses e [read] (requireLabels (labelsOf id legacy) missing e).2 ∧
        Asks vertexId legacy missing read (requireLabels (labelsOf id legacy) missing e).1 := by
  have hplanned := Store.planned_labelsOf id legacy
  rw [requireLabels_apply]
  cases hp : (liftDomain id >>= fun vertexId =>
      (Store.EntityCall.labels vertexId legacy).plan e.edgeIds) with
  | error err =>
    rw [hplanned.refused e err hp]
    exact .inl ⟨_, rfl⟩
  | ok p =>
    have hconverses := hplanned.converses hp
    have hresult := hplanned.result e p hp
    obtain ⟨vertexId, hid, hp⟩ := (Checks.bind_eq_ok_iff _ _ _).mp hp
    obtain ⟨s, hs, hp⟩ := (Checks.bind_eq_ok_iff _ _ _).mp hp
    cases hp
    have hread : (labelsOf id legacy e).1 =
        Reply.answer e.replies.head? >>= Store.EntityCall.readLabels vertexId legacy := hresult
    refine .inr ⟨vertexId, _, Store.liftDomain_ok hid, hconverses, hs, fun hok => ?_,
      fun hnone => ?_⟩
    · obtain ⟨labels, hlabels⟩ := verdict_eq_ok_iff.mp hok
      obtain ⟨rows, hanswer, hrows⟩ := (Checks.bind_eq_ok_iff _ _ _).mp (hread.symm.trans hlabels)
      obtain ⟨first, rest, row, rfl, hrow, hresolved⟩ := Store.readLabels_eq_ok_some hrows
      exact ⟨hs, first, rest, row, labels, hanswer, hrow, hresolved,
        Store.two_le_of_resolveLabels hresolved⟩
    · dsimp only at hnone
      rw [hread, hnone]
      rfl

/-- After a guard nothing is written unless it found two labels. -/
theorem converses_guarded {Kind : Statement → Prop} {x : Session ServiceError α}
    (hx : x.WritesOnly Kind) (id : Except DomainError String) (legacy : Bool) (missing : Missing)
    (e : Engine) :
    ∃ xs, Engine.Converses e xs
        ((requireLabels (labelsOf id legacy) missing >>= fun _ => x) e).2 ∧
      (∀ w ∈ xs, w.1.access = .write → ∃ read vertexId, xs = [read, w] ∧ id = .ok vertexId ∧
        FindsLabels vertexId legacy read ∧ Kind w.1) ∧
      ∀ read ∈ xs, read.1.access = .read → read.2 = .ok [] → xs = [read] ∧
        ((requireLabels (labelsOf id legacy) missing >>= fun _ => x) e).1 =
          .error (.notFound missing) := by
  rw [Session.bind_apply]
  rcases requireLabels_asks id legacy missing e with ⟨err, hrefused⟩ | hasked
  · rw [hrefused]
    exact ⟨[], .done rfl, fun _ hm => absurd hm List.not_mem_nil,
      fun _ hm => absurd hm List.not_mem_nil⟩
  obtain ⟨vertexId, read, hid, hread, hasks⟩ := hasked
  have haccess : read.1.access = .read := Store.access_labels hasks.statement
  rcases hguard : requireLabels (labelsOf id legacy) missing e with ⟨result, e₁⟩
  rw [hguard] at hread hasks
  cases result with
  | error err =>
    -- the guard was the last to ask, so there is no write
    refine ⟨[read], hread, fun w hw hwrite => ?_, fun r hr _ hnone => ?_⟩
    · rw [List.mem_singleton.mp hw, haccess] at hwrite
      cases hwrite
    · cases List.mem_singleton.mp hr
      exact ⟨rfl, congrArg _ (Except.error.inj (hasks.unfound hnone))⟩
  | ok a =>
    obtain ⟨w?, hw, hwrites⟩ := hx e₁
    refine ⟨read :: w?.toList, hread.append hw, fun w hm hwrite => ?_, fun r hr hr' hnone => ?_⟩
    · rcases List.mem_cons.mp hm with rfl | hm
      · rw [haccess] at hwrite
        cases hwrite
      · rw [Option.mem_toList.mp hm]
        exact ⟨read, vertexId, rfl, hid, hasks.found rfl,
          (hwrites w (Option.mem_toList.mp hm)).2⟩
    · rcases List.mem_cons.mp hr with rfl | hm
      · cases hasks.unfound hnone
      · rw [(hwrites r (Option.mem_toList.mp hm)).1] at hr'
        cases hr'

/-! ## Guarded operations -/

inductive Guarded : Type → Type
  | updateDevice (item : DeviceItem) : Guarded Unit
  | createComponent (device : String) (component : DeviceItem) : Guarded String
  | updateComponent (device : String) (component : DeviceItem) : Guarded Unit
  | updateGroup (item : GroupItem) : Guarded Unit

namespace Guarded

def run (legacy : Bool) : Guarded α → Session ServiceError α
  | updateDevice item => Devices.update item legacy
  | createComponent device component => Devices.createComponent device component legacy
  | updateComponent device component => Devices.updateComponent device component legacy
  | updateGroup item => Groups.update item legacy

def vertexId : Guarded α → Except DomainError String
  | updateDevice item => Identity.deviceId item.deviceId
  | createComponent device _ => Identity.deviceId device
  | updateComponent device component => Identity.componentId device component.deviceId
  | updateGroup item => Identity.groupId item.path

def missing : Guarded α → Missing
  | updateDevice item => .device item.deviceId
  | createComponent device _ => .device device
  | updateComponent device component => .component component.deviceId device
  | updateGroup item => .group item.path

def precheck : Guarded α → Except ServiceError Unit
  | updateDevice item => check (Identity.validateKey item.deviceId)
  | createComponent device component => Devices.checkComponent device component
  | updateComponent device component => do
    let _ ← check (Identity.componentId device component.deviceId)
  | updateGroup item => check (Identity.validateKey item.path)

def act : Guarded α → Session ServiceError α
  | updateDevice item => inStore (Store.Devices.update (item.toNode .device))
  | createComponent device component => do
    let _ ← inStore (Store.Devices.createComponent device (component.toNode .component))
    return component.deviceId
  | updateComponent device component => inStore (Store.Devices.updateComponent device
    component.deviceId (component.toNode .component).attributes)
  | updateGroup item => inStore (Store.Groups.update item.toNode)

theorem run_eq (c : Guarded α) (legacy : Bool) :
    c.run legacy = (Session.ofExcept c.precheck >>= fun _ =>
      requireLabels (labelsOf c.vertexId legacy) c.missing >>= fun _ => c.act) := by
  cases c with
  | updateComponent device component =>
    rw [run, Devices.updateComponent, precheck]
    cases check (Identity.componentId device component.deviceId) <;> rfl
  | _ => rfl

theorem writesOnly_act (c : Guarded α) : c.act.WritesOnly (OpensAt c.vertexId) := by
  cases c with
  | updateDevice item =>
    exact (Store.writesOnly_of_plan (.device (.update (item.toNode .device))) rfl
      fun _ _ hp => Store.opensAt_of_update_plan hp).mapError _
  | createComponent device component =>
    refine (Session.WritesOnly.mapError ?_ _).map _
    refine Store.writesOnly_of_plan
      (.device (.createComponent device (component.toNode .component))) rfl fun ids p hp s hs => ?_
    obtain ⟨⟨id, t⟩, hmade, hp⟩ := (Checks.bind_eq_ok_iff _ _ _).mp hp
    cases hp
    cases hs
    exact Store.opens_createComponent hmade
  | updateComponent device component =>
    exact (Store.writesOnly_of_plan (.device (.updateComponent device component.deviceId
      (component.toNode .component).attributes)) rfl
      fun _ _ hp => Store.opensAt_of_update_plan hp).mapError _
  | updateGroup item =>
    exact (Store.writesOnly_of_plan (.group (.update item.toNode)) rfl
      fun _ _ hp => Store.opensAt_of_update_plan hp).mapError _

/-- Whatever the engine answers, a write follows a read of the labels of the very vertex that
it finds, and that read found two at least; if it found no vertex, nothing else is asked. -/
theorem labels_precede_write (c : Guarded α) (legacy : Bool) (e : Engine) :
    ∃ xs, Engine.Converses e xs (c.run legacy e).2 ∧
      (∀ w ∈ xs, w.1.access = .write → ∃ read vertexId, xs = [read, w] ∧
        c.vertexId = .ok vertexId ∧ FindsLabels vertexId legacy read ∧
        read.1.Opens vertexId ∧ w.1.Opens vertexId) ∧
      ∀ read ∈ xs, read.1.access = .read → read.2 = .ok [] →
        xs = [read] ∧ (c.run legacy e).1 = .error (.notFound c.missing) := by
  rw [run_eq, Session.bind_apply, Session.ofExcept]
  cases c.precheck with
  | error err =>
    exact ⟨[], .done rfl, fun _ hm => absurd hm List.not_mem_nil,
      fun _ hm => absurd hm List.not_mem_nil⟩
  | ok a =>
    obtain ⟨xs, hxs, hwrites, hreads⟩ :=
      converses_guarded c.writesOnly_act c.vertexId legacy c.missing e
    refine ⟨xs, hxs, fun w hm hw => ?_, hreads⟩
    obtain ⟨read, vertexId, heq, hid, hfinds, vertexId', hid', hopens⟩ := hwrites w hm hw
    rw [hid] at hid'
    cases hid'
    exact ⟨read, vertexId, heq, hid, hfinds, Store.opens_labels hfinds.1, hopens⟩

def labelledEngine (chain : String) : Engine where
  replies := [.rows [.object [("chain", .string chain)]]]

theorem labels_precede_write_bus : ∃ read w, Engine.Converses (labelledEngine "bus::device")
      [read, w] ((updateDevice busItem).run true (labelledEngine "bus::device")).2 ∧
    w.1.access = .write ∧ FindsLabels "device___d" true read ∧
    read.1.Opens "device___d" ∧ w.1.Opens "device___d" := by
  obtain ⟨xs, hxs, hwrites, _⟩ :=
    labels_precede_write (updateDevice busItem) true (labelledEngine "bus::device")
  have hsubmitted : ((updateDevice busItem).run true
      (labelledEngine "bus::device")).2.submitted.map (·.access) = [.read, .write] := by decide
  rw [hxs.counts.1] at hsubmitted
  have haccess : (xs.map (·.1)).map (·.access) = [.read, .write] := hsubmitted
  obtain ⟨w, hw, hwrite⟩ : ∃ w ∈ xs, w.1.access = .write := by
    have hmem : Access.write ∈ (xs.map (·.1)).map (·.access) := haccess ▸ by decide
    simpa using hmem
  obtain ⟨read, vertexId, rfl, hid, hfinds, hread, hopens⟩ := hwrites w hw hwrite
  cases hid
  exact ⟨read, w, hxs, hwrite, hfinds, hread, hopens⟩

end Guarded

/-! ## The group above a new one -/

namespace Groups

def OpensAbove (item : GroupItem) (s : Statement) : Prop :=
  ∀ parentId, s.Opens parentId ↔ ∃ path, Store.Groups.parentPath? item.toNode = some path ∧
    Identity.groupId path = .ok parentId

theorem writesOnly_create (item : GroupItem) :
    (inStore (Store.Groups.create item.toNode item.groups) >>= fun _ =>
      (pure item.path : Session ServiceError String)).WritesOnly (OpensAbove item) := by
  refine (Session.WritesOnly.mapError ?_ _).map _
  refine Store.writesOnly_of_plan (.group (.create item.toNode item.groups)) rfl
    fun ids p hp s hs => ?_
  obtain ⟨⟨id, t⟩, hmade, hp⟩ := (Checks.bind_eq_ok_iff _ _ _).mp hp
  cases hp
  cases hs
  exact Store.opens_createStatement_iff hmade

theorem parentPath?_toNode {item : GroupItem} {path : String} (hp : item.parentPath ≠ "")
    (h : Store.Groups.parentPath? item.toNode = some path) : path = item.parentPath := by
  have hstored : item.toNode.attributes.get? Store.Groups.parentProperty =
      some (.string item.parentPath) := by
    rw [GroupItem.toNode, Item.get?_putField, if_neg (by decide), Item.get?_putField, if_pos rfl,
      GroupItem.nonempty?, if_neg hp]
    rfl
  rw [Store.Groups.parentPath?, hstored] at h
  dsimp only at h
  split at h
  · cases h
  · exact (Option.some.inj h).symm

/-- A group that is created beneath another one had that one looked for exactly if the
item names it in the field for it. -/
theorem parent_read_iff (item : GroupItem) (legacy : Bool) (e : Engine) :
    ∃ xs, Engine.Converses e xs (create item legacy e).2 ∧
      ∀ before w, xs = before ++ [w] → w.1.access = .write →
        OpensAbove item w.1 ∧ ∀ parentId, w.1.Opens parentId →
          ((∃ read ∈ before, labelsStatement parentId = .ok read.1 ∧
            ∃ first rest, read.2 = .ok (first :: rest)) ↔ item.parentPath ≠ "") := by
  rw [create, Session.bind_apply, Session.ofExcept]
  cases checkItem item with
  | error err => exact ⟨[], .done rfl, fun before w hxs => absurd hxs (by simp)⟩
  | ok a =>
    by_cases hparent : item.parentPath ≠ ""
    · -- the guard reads the very id that the write begins with
      dsimp only
      rw [if_pos hparent]
      obtain ⟨xs, hxs, hwrites, _⟩ := converses_guarded (writesOnly_create item)
        (Identity.groupId item.parentPath) legacy (.parentGroup item.parentPath) e
      refine ⟨xs, hxs, fun before w heq hwrite => ?_⟩
      obtain ⟨read, vertexId, htwo, hid, hfinds, habove⟩ :=
        hwrites w (heq ▸ List.mem_append_right before List.mem_cons_self) hwrite
      refine ⟨habove, fun parentId hopens => iff_of_true ⟨read, ?_, ?_⟩ hparent⟩
      · rw [show before = [read] from List.append_cancel_right (heq.symm.trans htwo)]
        exact List.mem_cons_self
      · obtain ⟨path, hpath, hparentId⟩ := (habove parentId).mp hopens
        rw [parentPath?_toNode hparent hpath, hid] at hparentId
        cases hparentId
        obtain ⟨hstatement, first, rest, _, _, hrows, _⟩ := hfinds
        exact ⟨hstatement, first, rest, hrows⟩
    · -- nothing is asked before the write, whatever it begins with
      dsimp only
      rw [if_neg hparent]
      obtain ⟨w?, hw, hwrites⟩ := writesOnly_create item e
      refine ⟨w?.toList, hw, fun before w heq _ => ?_⟩
      have hmem : w ∈ w?.toList := heq ▸ List.mem_append_right before List.mem_cons_self
      have hnone : before = [] := by
        rw [Option.mem_toList.mp hmem] at heq
        exact List.append_cancel_right heq.symm
      refine ⟨(hwrites w (Option.mem_toList.mp hmem)).2, fun parentId _ =>
        iff_of_false ?_ hparent⟩
      rintro ⟨read, hread, _⟩
      rw [hnone] at hread
      exact List.not_mem_nil hread

theorem parent_read_iff_north : ∃ read w, Engine.Converses euEngine [read, w]
      (create northItem true euEngine).2 ∧ w.1.Opens "group___/eu" ∧
    labelsStatement "group___/eu" = .ok read.1 ∧ ∃ first rest, read.2 = .ok (first :: rest) := by
  obtain ⟨xs, hxs, hparent⟩ := parent_read_iff northItem true euEngine
  have hsubmitted : (create northItem true euEngine).2.submitted.map (·.access) =
      [.read, .write] := by decide
  rw [hxs.counts.1] at hsubmitted
  have haccess : xs.map (fun x => x.1.access) = [.read, .write] := by
    rw [← hsubmitted]
    simp [euEngine]
  obtain ⟨read, w, rfl⟩ : ∃ read w, xs = [read, w] := by
    rw [← List.length_eq_two, ← List.length_map, haccess]
    rfl
  have hwrite : w.1.access = .write := by
    simp only [List.map_cons, List.cons.injEq] at haccess
    exact haccess.2.1
  obtain ⟨habove, hread⟩ := hparent [read] w rfl hwrite
  have hopens : w.1.Opens "group___/eu" := (habove _).mpr ⟨"/eu", rfl, rfl⟩
  obtain ⟨r, hr, hrows⟩ := (hread _ hopens).mpr (by decide)
  rw [List.mem_singleton.mp hr] at hrows
  exact ⟨read, w, hxs, hopens, hrows⟩

def strayItem : GroupItem where
  groupPath := "/x/y"
  templateId := "region"
  attributes := Dict.ofList [("parentPath", .string "/x")]

/-- A creation that does nothing unless there is a group `/x`, and succeeds without
having looked for one. -/
theorem parent_unread : (create strayItem true {}).1 = .ok "/x/y" ∧
    ∃ w, Engine.Converses {} [w] (create strayItem true {}).2 ∧ w.1.access = .write ∧
      w.1.Opens "group___/x" := by
  refine ⟨rfl, ?_⟩
  obtain ⟨w?, hw, hkind⟩ := writesOnly_create strayItem {}
  have hrun : Engine.Converses {} w?.toList (create strayItem true {}).2 := hw
  have hlength : (create strayItem true {}).2.submitted.length = 1 := by decide
  rw [hrun.counts.1] at hlength
  cases w? with
  | none => cases hlength
  | some w => exact ⟨w, hrun, (hkind w rfl).1, ((hkind w rfl).2 _).mpr ⟨"/x", rfl, rfl⟩⟩

end Groups

end Service

end DeviceGraph
