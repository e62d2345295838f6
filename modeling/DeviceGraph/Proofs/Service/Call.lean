import DeviceGraph.Proofs.Store.Closed
import DeviceGraph.Service.Groups
import DeviceGraph.Service.Search

/-!
# Calls of the services

Every operation of the services with its input, indexed by the type of its result. A
service checks its input, asks the store for the labels of what must exist, and then
makes the call that it is there for; so whatever it writes, it writes last.
-/

set_option autoImplicit false

namespace DeviceGraph

variable {α : Type}

namespace Store.Call

theorem reads (c : Call α) (h : c.access = .read) : c.run.Reads :=
  c.planned.reads fun _ _ hp s hs => by
    obtain ⟨fixed, hmaking⟩ := (c.sound hp).making s hs
    exact hmaking.access_eq.trans h

theorem writesLast (c : Call α) : c.run.WritesLast id := by
  cases h : c.access with
  | read => exact (c.reads h).writesLast id
  | write =>
    refine c.planned.writesLast fun _ p hp => ⟨fun s hs => ?_, (c.sound hp).final h⟩
    obtain ⟨fixed, hmaking⟩ := (c.sound hp).making s hs
    exact hmaking.access_eq.trans h

end Store.Call

namespace Service

/-- A call of the store that only reads, as the services make it. -/
theorem reads_inStore (c : Store.Call α) (h : c.access = .read) : (inStore c.run).Reads :=
  (c.reads h).mapError ServiceError.graph

theorem writesLast_inStore (c : Store.Call α) : (inStore c.run).WritesLast .graph :=
  c.writesLast.mapError ServiceError.graph

theorem reads_requireLabels (c : Store.Call (Option (List String))) (h : c.access = .read)
    (missing : Missing) : (requireLabels c.run missing).Reads := by
  refine (reads_inStore c h).bind fun found => ?_
  cases found with
  | none => exact Session.reads_ofExcept (.error (ServiceError.notFound missing))
  | some labels => exact Session.reads_pure ()

/-! ## Devices -/

inductive DeviceCall : Type → Type
  | get (device : String) (options : ReadOptions) : DeviceCall (Option DeviceItem)
  | getAll (devices : List String) (options : ReadOptions) : DeviceCall (List DeviceItem)
  | create (item : DeviceItem) : DeviceCall String
  | update (item : DeviceItem) (legacy : Bool) : DeviceCall Unit
  | delete (device : String) : DeviceCall Unit
  | createComponent (device : String) (component : DeviceItem) (legacy : Bool) : DeviceCall String
  | updateComponent (device : String) (component : DeviceItem) (legacy : Bool) : DeviceCall Unit
  | deleteComponent (device component : String) : DeviceCall Unit
  | attachToGroup (device relation : String) (direction : Direction) (group : String) :
    DeviceCall Unit
  | detachFromGroup (device relation : String) (direction : Direction) (group : String) :
    DeviceCall Unit
  | attachToDevice (device relation : String) (direction : Direction) (other : String) :
    DeviceCall Unit
  | detachFromDevice (device relation : String) (direction : Direction) (other : String) :
    DeviceCall Unit
  | relatedGroups (device : String) (q : RelatedQuery) : DeviceCall (Option (List GroupItem))
  | relatedDevices (device : String) (q : RelatedQuery) : DeviceCall (Option (List DeviceItem))

namespace DeviceCall

def run : DeviceCall α → Session ServiceError α
  | get device options => Devices.get device options
  | getAll devices options => Devices.getAll devices options
  | create item => Devices.create item
  | update item legacy => Devices.update item legacy
  | delete device => Devices.delete device
  | createComponent device component legacy => Devices.createComponent device component legacy
  | updateComponent device component legacy => Devices.updateComponent device component legacy
  | deleteComponent device component => Devices.deleteComponent device component
  | attachToGroup device relation direction group =>
    Devices.attachToGroup device relation direction group
  | detachFromGroup device relation direction group =>
    Devices.detachFromGroup device relation direction group
  | attachToDevice device relation direction other =>
    Devices.attachToDevice device relation direction other
  | detachFromDevice device relation direction other =>
    Devices.detachFromDevice device relation direction other
  | relatedGroups device q => Devices.relatedGroups device q
  | relatedDevices device q => Devices.relatedDevices device q

def access : DeviceCall α → Access
  | get .. | getAll .. | relatedGroups .. | relatedDevices .. => .read
  | _ => .write

theorem reads (c : DeviceCall α) (h : c.access = .read) : c.run.Reads := by
  cases c with
  | get device options =>
    exact (Session.reads_ofExcept _).bind fun _ =>
      (reads_inStore (.device (.get device options)) rfl).bind fun found => Session.reads_pure _
  | getAll devices options =>
    exact (Session.reads_ofExcept _).bind fun _ =>
      (reads_inStore (.device (.getAll devices options)) rfl).bind fun found => Session.reads_pure _
  | relatedGroups device q | relatedDevices device q =>
    exact (Session.reads_ofExcept _).bind fun _ =>
      (reads_inStore (.device (.related device q)) rfl).bind fun found => Session.reads_pure _
  | _ => cases h

theorem writesLast (c : DeviceCall α) : c.run.WritesLast .graph := by
  cases c with
  | get | getAll | relatedGroups | relatedDevices => exact (reads _ rfl).writesLast _
  | create item =>
    refine (Session.reads_ofExcept _).bind_writesLast fun _ =>
      (Session.reads_ofExcept _).bind_writesLast fun _ => ?_
    exact (writesLast_inStore (.device (.create (item.toNode .device) item.groups item.devices
      (item.components.map (·.toNode .component))))).map _
  | update item legacy =>
    refine (Session.reads_ofExcept _).bind_writesLast fun _ =>
      (reads_requireLabels (.device (.labels item.deviceId legacy)) rfl _).bind_writesLast
        fun _ => ?_
    exact writesLast_inStore (.device (.update (item.toNode .device)))
  | delete device =>
    exact (Session.reads_ofExcept _).bind_writesLast fun _ =>
      writesLast_inStore (.device (.delete device))
  | createComponent device component legacy =>
    refine (Session.reads_ofExcept _).bind_writesLast fun _ =>
      (reads_requireLabels (.device (.labels device legacy)) rfl _).bind_writesLast fun _ => ?_
    exact (writesLast_inStore
      (.device (.createComponent device (component.toNode .component)))).map _
  | updateComponent device component legacy =>
    refine (Session.reads_ofExcept _).bind_writesLast fun _ =>
      (reads_requireLabels (.device (.componentLabels device component.deviceId legacy))
        rfl _).bind_writesLast fun _ => ?_
    exact writesLast_inStore (.device (.updateComponent device component.deviceId
      (component.toNode .component).attributes))
  | deleteComponent device component =>
    exact (Session.reads_ofExcept _).bind_writesLast fun _ =>
      writesLast_inStore (.device (.deleteComponent device component))
  | attachToGroup device relation direction group =>
    exact (Session.reads_ofExcept _).bind_writesLast fun _ =>
      writesLast_inStore (.device (.attachToGroup device relation direction group))
  | detachFromGroup device relation direction group =>
    exact (Session.reads_ofExcept _).bind_writesLast fun _ =>
      writesLast_inStore (.device (.detachFromGroup device relation direction group))
  | attachToDevice device relation direction other =>
    exact (Session.reads_ofExcept _).bind_writesLast fun _ =>
      writesLast_inStore (.device (.attachToDevice device relation direction other))
  | detachFromDevice device relation direction other =>
    exact (Session.reads_ofExcept _).bind_writesLast fun _ =>
      writesLast_inStore (.device (.detachFromDevice device relation direction other))

end DeviceCall

/-! ## Groups -/

inductive GroupCall : Type → Type
  | get (group : String) : GroupCall (Option GroupItem)
  | getAll (groups : List String) : GroupCall (List GroupItem)
  | create (item : GroupItem) (legacy : Bool) : GroupCall String
  | update (item : GroupItem) (legacy : Bool) : GroupCall Unit
  | delete (group : String) : GroupCall Unit
  | attach (group relation other : String) : GroupCall Unit
  | detach (group relation other : String) : GroupCall Unit
  | ancestors (group : String) : GroupCall (List GroupItem)
  | relatedGroups (group : String) (q : RelatedQuery) : GroupCall (Option (List GroupItem))
  | relatedDevices (group : String) (q : RelatedQuery) : GroupCall (Option (List DeviceItem))

namespace GroupCall

def run : GroupCall α → Session ServiceError α
  | get group => Groups.get group
  | getAll groups => Groups.getAll groups
  | create item legacy => Groups.create item legacy
  | update item legacy => Groups.update item legacy
  | delete group => Groups.delete group
  | attach group relation other => Groups.attach group relation other
  | detach group relation other => Groups.detach group relation other
  | ancestors group => Groups.ancestors group
  | relatedGroups group q => Groups.relatedGroups group q
  | relatedDevices group q => Groups.relatedDevices group q

def access : GroupCall α → Access
  | get .. | getAll .. | ancestors .. | relatedGroups .. | relatedDevices .. => .read
  | _ => .write

theorem reads (c : GroupCall α) (h : c.access = .read) : c.run.Reads := by
  cases c with
  | get group =>
    exact (Session.reads_ofExcept _).bind fun _ =>
      (reads_inStore (.group (.get group true)) rfl).bind fun found => Session.reads_pure _
  | getAll groups =>
    exact (Session.reads_ofExcept _).bind fun _ =>
      (reads_inStore (.group (.getAll groups true)) rfl).bind fun found => Session.reads_pure _
  | ancestors group =>
    exact (Session.reads_ofExcept _).bind fun _ =>
      (reads_inStore (.group (.ancestors group)) rfl).bind fun found => Session.reads_pure _
  | relatedGroups group q | relatedDevices group q =>
    exact (Session.reads_ofExcept _).bind fun _ =>
      (reads_inStore (.group (.related group q)) rfl).bind fun found => Session.reads_pure _
  | _ => cases h

theorem writesLast (c : GroupCall α) : c.run.WritesLast .graph := by
  cases c with
  | get | getAll | ancestors | relatedGroups | relatedDevices => exact (reads _ rfl).writesLast _
  | create item legacy =>
    have hcreate := (writesLast_inStore (.group (.create item.toNode item.groups))).map
      fun _ => item.path
    refine (Session.reads_ofExcept _).bind_writesLast fun _ => ?_
    by_cases hparent : item.parentPath ≠ ""
    · rw [if_pos hparent]
      exact (reads_requireLabels (.group (.labels item.parentPath legacy)) rfl _).bind_writesLast
        fun _ => hcreate
    · rw [if_neg hparent]
      exact hcreate
  | update item legacy =>
    refine (Session.reads_ofExcept _).bind_writesLast fun _ =>
      (reads_requireLabels (.group (.labels item.path legacy)) rfl _).bind_writesLast fun _ => ?_
    exact writesLast_inStore (.group (.update item.toNode))
  | delete group =>
    exact (Session.reads_ofExcept _).bind_writesLast fun _ =>
      writesLast_inStore (.group (.delete group))
  | attach group relation other =>
    exact (Session.reads_ofExcept _).bind_writesLast fun _ =>
      writesLast_inStore (.group (.attach group relation other))
  | detach group relation other =>
    exact (Session.reads_ofExcept _).bind_writesLast fun _ =>
      writesLast_inStore (.group (.detach group relation other))

end GroupCall

/-! ## All calls -/

inductive Call : Type → Type 1
  | device {α : Type} (c : DeviceCall α) : Call α
  | group {α : Type} (c : GroupCall α) : Call α
  | search (r : DeviceGraph.Search.Request) (page : Option Page) : Call DeviceGraph.Search.Results
  | searchQueryString (query : String) (page : Option Page) : Call DeviceGraph.Search.Results
  | searchValueMap (parameters : Dict (List String)) (page : Option Page) :
    Call DeviceGraph.Search.Results

namespace Call

def run : Call α → Session ServiceError α
  | device c => c.run
  | group c => c.run
  | search r page => Search.run r page
  | searchQueryString query page => Search.runQueryString query page
  | searchValueMap parameters page => Search.runValueMap parameters page

def access : Call α → Access
  | device c => c.access
  | group c => c.access
  | search .. | searchQueryString .. | searchValueMap .. => .read

theorem reads_search (r : DeviceGraph.Search.Request) (page : Option Page) :
    (Search.run r page).Reads :=
  ((Store.Call.search r page).reads rfl).mapError _

theorem reads (c : Call α) (h : c.access = .read) : c.run.Reads := by
  cases c with
  | device c => exact c.reads h
  | group c => exact c.reads h
  | search r page => exact reads_search r page
  | searchQueryString query page | searchValueMap parameters page =>
    exact (Session.reads_ofExcept _).bind fun r => reads_search r page

theorem writesLast (c : Call α) : c.run.WritesLast .graph := by
  cases c with
  | device c => exact c.writesLast
  | group c => exact c.writesLast
  | search | searchQueryString | searchValueMap => exact (reads _ rfl).writesLast _

end Call

end Service

end DeviceGraph
