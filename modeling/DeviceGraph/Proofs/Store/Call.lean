import DeviceGraph.Proofs.Store.Plan
import DeviceGraph.Search.Results
import DeviceGraph.Store.Devices
import DeviceGraph.Store.Groups

/-!
# Calls of the store

Every operation of the store with its input, indexed by the type of its result, and
the plan of each. An operation on a device or a group finds the vertex ids first and
then plans as the operation on any entity does.
-/

set_option autoImplicit false

namespace DeviceGraph.Store

variable {α : Type}

/-! ## Any entity -/

inductive EntityCall : Type → Type
  | labels (vertexId : String) (legacy : Bool) : EntityCall (Option (List String))
  | related (rootId : String) (q : RelatedQuery) : EntityCall (Option Node)
  | attach (entity relation : String) (direction : Direction) (other : String) : EntityCall Unit
  | detach (entity relation : String) (direction : Direction) (other : String) : EntityCall Unit
  | update (vertexId : String) (attributes : Dict Json) : EntityCall Unit
  | delete (vertexId : String) : EntityCall Unit

namespace EntityCall

def run : EntityCall α → Session GraphError α
  | labels vertexId legacy => Store.labels vertexId legacy
  | related rootId q => Store.related rootId q
  | attach entity relation direction other => Store.attach entity relation direction other
  | detach entity relation direction other => Store.detach entity relation direction other
  | update vertexId attributes => Store.update vertexId attributes
  | delete vertexId => Store.delete vertexId

def access : EntityCall α → Access
  | labels .. | related .. => .read
  | _ => .write

def readLabels (vertexId : String) (legacy : Bool) :
    List Json → Except GraphError (Option (List String))
  | [] => .ok none
  | first :: _ => do
    let row ← readRow LabelsRow.ofJson? first
    some <$> resolveLabels vertexId row legacy

def readRelated : List Json → Except GraphError (Option Node)
  | [] => .ok none
  | first :: _ => some <$> Assembly.projectionOfRow first

def plan : EntityCall α → Planning α
  | labels vertexId legacy => fun _ => do
    return .ask (← labelsStatement vertexId) (readLabels vertexId legacy)
  | related rootId q => fun _ => do return .ask (← relatedStatement rootId q) readRelated
  | attach entity relation direction other => fun ids => do
    return .tell (← attachStatement ids entity relation direction other) ()
  | detach entity relation direction other => fun _ => do
    return .tell (← detachStatement entity relation direction other) ()
  | update vertexId attributes => fun _ => do
    return ⟨← updateStatement vertexId attributes, fun _ => .ok ()⟩
  | delete vertexId => fun _ => do return .tell (← deleteStatement vertexId) ()

theorem noteIncomplete_some (vertexId : String) (result : Except GraphError (List String))
    (e : Engine) :
    ((noteIncomplete vertexId result >>= fun labels => pure (some labels)) e).1 = some <$> result ∧
      ((noteIncomplete vertexId result >>= fun labels => pure (some labels)) e).2.core =
        e.core := by
  rcases result with (_ | _ | _ | _ | ⟨_ | ⟨_, _⟩ | _⟩) | _ <;> exact ⟨rfl, rfl⟩

theorem planned_labels (vertexId : String) (legacy : Bool) :
    Planned (Store.labels vertexId legacy) (labels vertexId legacy).plan := by
  refine .ofExcept_bind fun s => .run "relations.get_labels" s fun rows e => ?_
  cases rows with
  | nil => exact ⟨rfl, rfl⟩
  | cons first rest =>
    dsimp only [readLabels]
    cases readRow LabelsRow.ofJson? first with
    | error err => exact ⟨rfl, rfl⟩
    | ok row => exact noteIncomplete_some vertexId (resolveLabels vertexId row legacy) e

theorem noted_reserved (vertexId : String) (keys : List String) (e : Engine) :
    ∃ e₁, (forIn keys PUnit.unit (fun key _ => do
        Session.note (.reservedProperty vertexId key)
        pure (.yield PUnit.unit)) : Session GraphError PUnit) e = (.ok (), e₁) ∧
      e₁.core = e.core := by
  induction keys generalizing e with
  | nil => exact ⟨e, rfl, rfl⟩
  | cons key keys ih =>
    obtain ⟨e₁, hkeys, hcore⟩ := ih (e.note (.reservedProperty vertexId key))
    exact ⟨e₁, (congrFun (List.forIn_cons ..) e).trans hkeys, hcore⟩

theorem planned_update (vertexId : String) (attributes : Dict Json) :
    Planned (Store.update vertexId attributes) (update vertexId attributes).plan := by
  refine .ofExcept_bind fun statement => .noted (noted_reserved vertexId _) ?_
  cases statement with
  | none => exact .idle fun e => ⟨e, rfl, rfl⟩
  | some s => exact .tell "relations.update_vertex" s ()

theorem planned (c : EntityCall α) : Planned c.run c.plan := by
  cases c with
  | labels vertexId legacy => exact planned_labels vertexId legacy
  | related rootId q =>
    refine .ofExcept_bind fun s => .ask "relations.list_related" s fun rows => ?_
    cases rows with
    | nil => rfl
    | cons first rest => exact Session.ofExcept_bind_pure _ _
  | attach entity relation direction other =>
    exact .edgeIds_bind fun ids => .ofExcept_bind fun s => .tell "relations.attach" s ()
  | detach entity relation direction other =>
    exact .ofExcept_bind fun s => .tell "relations.detach" s ()
  | update vertexId attributes => exact planned_update vertexId attributes
  | delete vertexId => exact .ofExcept_bind fun s => .tell "relations.delete_vertex" s ()

end EntityCall

/-! ## Devices -/

inductive DeviceCall : Type → Type
  | get (device : String) (options : ReadOptions) : DeviceCall (Option Node)
  | getAll (devices : List String) (options : ReadOptions) : DeviceCall (List Node)
  | labels (device : String) (legacy : Bool) : DeviceCall (Option (List String))
  | componentLabels (device component : String) (legacy : Bool) :
    DeviceCall (Option (List String))
  | related (device : String) (q : RelatedQuery) : DeviceCall (Option Node)
  | create (device : Node) (groups devices : Relations) (components : List Node) :
    DeviceCall String
  | createComponent (device : String) (component : Node) : DeviceCall String
  | update (device : Node) : DeviceCall Unit
  | updateComponent (device component : String) (attributes : Dict Json) : DeviceCall Unit
  | delete (device : String) : DeviceCall Unit
  | deleteComponent (device component : String) : DeviceCall Unit
  | attachToGroup (device relation : String) (direction : Direction) (group : String) :
    DeviceCall Unit
  | detachFromGroup (device relation : String) (direction : Direction) (group : String) :
    DeviceCall Unit
  | attachToDevice (device relation : String) (direction : Direction) (other : String) :
    DeviceCall Unit
  | detachFromDevice (device relation : String) (direction : Direction) (other : String) :
    DeviceCall Unit

namespace DeviceCall

open Devices in
def run : DeviceCall α → Session GraphError α
  | get device options => Devices.get device options
  | getAll devices options => Devices.getAll devices options
  | labels device legacy => Devices.labels device legacy
  | componentLabels device component legacy => Devices.componentLabels device component legacy
  | related device q => Devices.related device q
  | create device groups devices components => Devices.create device groups devices components
  | createComponent device component => Devices.createComponent device component
  | update device => Devices.update device
  | updateComponent device component attributes =>
    Devices.updateComponent device component attributes
  | delete device => Devices.delete device
  | deleteComponent device component => Devices.deleteComponent device component
  | attachToGroup device relation direction group =>
    Devices.attachToGroup device relation direction group
  | detachFromGroup device relation direction group =>
    Devices.detachFromGroup device relation direction group
  | attachToDevice device relation direction other =>
    Devices.attachToDevice device relation direction other
  | detachFromDevice device relation direction other =>
    Devices.detachFromDevice device relation direction other

def access : DeviceCall α → Access
  | get .. | getAll .. | labels .. | componentLabels .. | related .. => .read
  | _ => .write

def planAll (devices : List String) (options : ReadOptions) : Planning (List Node) := fun _ => do
  return .ask (← Devices.getStatement devices options) fun rows =>
    rows.mapM Assembly.projectionOfRow

def plan : DeviceCall α → Planning α
  | get device options => fun ids => Plan.map List.head? <$> planAll [device] options ids
  | getAll devices options => planAll devices options
  | labels device legacy => fun ids => do
    (EntityCall.labels (← liftDomain (Identity.deviceId device)) legacy).plan ids
  | componentLabels device component legacy => fun ids => do
    (EntityCall.labels (← liftDomain (Identity.componentId device component)) legacy).plan ids
  | related device q => fun ids => do
    (EntityCall.related (← liftDomain (Identity.deviceId device)) q).plan ids
  | create device groups devices components => fun ids => do
    let (vertexId, s) ← Devices.createStatement ids device groups devices components
    return .tell s vertexId
  | createComponent device component => fun ids => do
    let (vertexId, s) ← Devices.createComponentStatement ids device component
    return .tell s vertexId
  | update device => fun ids => do
    (EntityCall.update (← liftDomain (Identity.deviceId device.id)) device.attributes).plan ids
  | updateComponent device component attributes => fun ids => do
    (EntityCall.update (← liftDomain (Identity.componentId device component)) attributes).plan ids
  | delete device => fun _ => do return .tell (← Devices.deleteStatement device) ()
  | deleteComponent device component => fun ids => do
    (EntityCall.delete (← liftDomain (Identity.componentId device component))).plan ids
  | attachToGroup device relation direction group => fun ids => do
    let entity ← liftDomain (Identity.deviceId device)
    let other ← liftDomain (Identity.groupId group)
    (EntityCall.attach entity relation direction other).plan ids
  | detachFromGroup device relation direction group => fun ids => do
    let entity ← liftDomain (Identity.deviceId device)
    let other ← liftDomain (Identity.groupId group)
    (EntityCall.detach entity relation direction other).plan ids
  | attachToDevice device relation direction other => fun ids => do
    let entity ← liftDomain (Identity.deviceId device)
    let other ← liftDomain (Identity.deviceId other)
    (EntityCall.attach entity relation direction other).plan ids
  | detachFromDevice device relation direction other => fun ids => do
    let entity ← liftDomain (Identity.deviceId device)
    let other ← liftDomain (Identity.deviceId other)
    (EntityCall.detach entity relation direction other).plan ids

theorem planned_all (devices : List String) (options : ReadOptions) :
    Planned (Devices.getAll devices options) (planAll devices options) :=
  .ofExcept_bind fun s => .ask "devices.get" s fun _ => rfl

theorem planned (c : DeviceCall α) : Planned c.run c.plan := by
  cases c with
  | get device options => exact (planned_all [device] options).map List.head?
  | getAll devices options => exact planned_all devices options
  | labels device legacy => exact .ofExcept_bind fun id => (EntityCall.labels id legacy).planned
  | componentLabels device component legacy =>
    exact .ofExcept_bind fun id => (EntityCall.labels id legacy).planned
  | related device q => exact .ofExcept_bind fun id => (EntityCall.related id q).planned
  | create device groups devices components =>
    exact .edgeIds_bind fun ids => .ofExcept_bind fun made =>
      .tell "devices.create" made.2 made.1
  | createComponent device component =>
    exact .edgeIds_bind fun ids => .ofExcept_bind fun made =>
      .tell "devices.create_component" made.2 made.1
  | update device =>
    exact .ofExcept_bind fun id => (EntityCall.update id device.attributes).planned
  | updateComponent device component attributes =>
    exact .ofExcept_bind fun id => (EntityCall.update id attributes).planned
  | delete device => exact .ofExcept_bind fun s => .tell "devices.delete" s ()
  | deleteComponent device component =>
    exact .ofExcept_bind fun id => (EntityCall.delete id).planned
  | attachToGroup device relation direction group =>
    exact .ofExcept_bind fun entity => .ofExcept_bind fun other =>
      (EntityCall.attach entity relation direction other).planned
  | detachFromGroup device relation direction group =>
    exact .ofExcept_bind fun entity => .ofExcept_bind fun other =>
      (EntityCall.detach entity relation direction other).planned
  | attachToDevice device relation direction other =>
    exact .ofExcept_bind fun entity => .ofExcept_bind fun other =>
      (EntityCall.attach entity relation direction other).planned
  | detachFromDevice device relation direction other =>
    exact .ofExcept_bind fun entity => .ofExcept_bind fun other =>
      (EntityCall.detach entity relation direction other).planned

end DeviceCall

/-! ## Groups -/

inductive GroupCall : Type → Type
  | get (group : String) (withRelated : Bool) : GroupCall (Option Node)
  | getAll (groups : List String) (withRelated : Bool) : GroupCall (List Node)
  | labels (group : String) (legacy : Bool) : GroupCall (Option (List String))
  | related (group : String) (q : RelatedQuery) : GroupCall (Option Node)
  | ancestors (group : String) : GroupCall (List Node)
  | create (group : Node) (groups : Relations) : GroupCall String
  | update (group : Node) : GroupCall Unit
  | delete (group : String) : GroupCall Unit
  | attach (group relation other : String) : GroupCall Unit
  | detach (group relation other : String) : GroupCall Unit

namespace GroupCall

def run : GroupCall α → Session GraphError α
  | get group withRelated => Groups.get group withRelated
  | getAll groups withRelated => Groups.getAll groups withRelated
  | labels group legacy => Groups.labels group legacy
  | related group q => Groups.related group q
  | ancestors group => Groups.ancestors group
  | create group groups => Groups.create group groups
  | update group => Groups.update group
  | delete group => Groups.delete group
  | attach group relation other => Groups.attach group relation other
  | detach group relation other => Groups.detach group relation other

def access : GroupCall α → Access
  | get .. | getAll .. | labels .. | related .. | ancestors .. => .read
  | _ => .write

def planAll (groups : List String) (withRelated : Bool) : Planning (List Node) := fun _ => do
  return .ask (← Groups.getStatement groups withRelated) fun answers => do
    Assembly.nodes (← answers.mapM (readRow Row.ofJson?))

def plan : GroupCall α → Planning α
  | get group withRelated => fun ids => Plan.map List.head? <$> planAll [group] withRelated ids
  | getAll groups withRelated => planAll groups withRelated
  | labels group legacy => fun ids => do
    (EntityCall.labels (← liftDomain (Identity.groupId group)) legacy).plan ids
  | related group q => fun ids => do
    (EntityCall.related (← liftDomain (Identity.groupId group)) q).plan ids
  | ancestors group => fun _ => do
    return .ask (← Groups.ancestorsStatement group) fun rows => rows.mapM Assembly.nodeOfRow
  | create group groups => fun ids => do
    let (vertexId, s) ← Groups.createStatement ids group groups
    return .tell s vertexId
  | update group => fun ids => do
    (EntityCall.update (← liftDomain (Identity.groupId group.id)) group.attributes).plan ids
  | delete group => fun ids => do
    (EntityCall.delete (← liftDomain (Identity.groupId group))).plan ids
  | attach group relation other => fun ids => do
    let origin ← liftDomain (Identity.groupId group)
    let head ← liftDomain (Identity.groupId other)
    (EntityCall.attach origin relation .outgoing head).plan ids
  | detach group relation other => fun ids => do
    let origin ← liftDomain (Identity.groupId group)
    let head ← liftDomain (Identity.groupId other)
    (EntityCall.detach origin relation .outgoing head).plan ids

theorem planned_all (groups : List String) (withRelated : Bool) :
    Planned (Groups.getAll groups withRelated) (planAll groups withRelated) := by
  refine .ofExcept_bind fun s => .ask "groups.get" s fun answers => ?_
  exact Session.ofExcept_bind_ofExcept _ _

theorem planned (c : GroupCall α) : Planned c.run c.plan := by
  cases c with
  | get group withRelated => exact (planned_all [group] withRelated).map List.head?
  | getAll groups withRelated => exact planned_all groups withRelated
  | labels group legacy => exact .ofExcept_bind fun id => (EntityCall.labels id legacy).planned
  | related group q => exact .ofExcept_bind fun id => (EntityCall.related id q).planned
  | ancestors group =>
    exact .ofExcept_bind fun s => .ask "groups.list_parent_groups" s fun _ => rfl
  | create group groups =>
    exact .edgeIds_bind fun ids => .ofExcept_bind fun made => .tell "groups.create" made.2 made.1
  | update group =>
    exact .ofExcept_bind fun id => (EntityCall.update id group.attributes).planned
  | delete group => exact .ofExcept_bind fun id => (EntityCall.delete id).planned
  | attach group relation other =>
    exact .ofExcept_bind fun origin => .ofExcept_bind fun head =>
      (EntityCall.attach origin relation .outgoing head).planned
  | detach group relation other =>
    exact .ofExcept_bind fun origin => .ofExcept_bind fun head =>
      (EntityCall.detach origin relation .outgoing head).planned

end GroupCall

/-! ## All calls -/

inductive Call : Type → Type 1
  | entity {α : Type} (c : EntityCall α) : Call α
  | device {α : Type} (c : DeviceCall α) : Call α
  | group {α : Type} (c : GroupCall α) : Call α
  | search (r : Search.Request) (page : Option Page) : Call Search.Results

namespace Call

def run : Call α → Session GraphError α
  | entity c => c.run
  | device c => c.run
  | group c => c.run
  | search r page => Search.run r page

def access : Call α → Access
  | entity c => c.access
  | device c => c.access
  | group c => c.access
  | search .. => .read

def readResults (summarize : Bool) (rows : List Json) : Except GraphError Search.Results :=
  if summarize then .ok (.summary (Search.totalOfRows rows))
  else .found <$> rows.mapM Assembly.nodeOfRow

def plan : Call α → Planning α
  | entity c => c.plan
  | device c => c.plan
  | group c => c.plan
  | search r page => fun _ => do return .ask (← r.statement page) (readResults r.summarize)

theorem planned (c : Call α) : Planned c.run c.plan := by
  cases c with
  | entity c => exact c.planned
  | device c => exact c.planned
  | group c => exact c.planned
  | search r page =>
    refine .ofExcept_bind fun s => .ask "search.search" s fun rows => ?_
    rw [readResults]
    cases r.summarize with
    | true => rfl
    | false => exact Session.ofExcept_bind_pure _ _

end Call

end DeviceGraph.Store
