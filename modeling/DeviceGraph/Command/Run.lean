import DeviceGraph.Command.Basic
import DeviceGraph.Json.Reader
import DeviceGraph.Service.Groups
import DeviceGraph.Service.Search
import DeviceGraph.Settings.Load

/-!
# Running commands

A command reads an item from its input where it takes one and answers with a
value to print. It fails with a message, and a wrong command line with another
exit code. Writing a search in both of its forms needs no graph.
-/

set_option autoImplicit false

namespace DeviceGraph

inductive CommandError
  | settings (error : SettingsError)
  | input (complaint : Json.Complaint)
  | noItem
  | direction (error : DomainError)
  | search (error : SearchError)
  | service (error : ServiceError)
  | noDevice (id : String)
  | noGroup (path : String)
  deriving DecidableEq, Repr

def CommandError.message : CommandError → String
  | .settings error => error.message
  | .input complaint => complaint.message
  | .noItem => "the input is no item"
  | .direction error => error.message
  | .search error => error.message
  | .service error => error.message
  | .noDevice id => "Device " ++ id ++ " not found"
  | .noGroup path => "Group " ++ path ++ " not found"

namespace Command

variable {α : Type}

def layouts : Json.Layouts := fun name =>
  if name = DeviceItem.recordName then DeviceItem.layout
  else if name = GroupItem.recordName then GroupItem.layout
  else if name = Relations.recordName then Relations.layout
  else []

/-- The item that an input holds: a value in the form of a record, as it is read. -/
def inputItem (record : String) (read : Json → Option α) (input : String) :
    Except CommandError α := do
  let value ← (Json.read layouts (.record record) input).mapError .input
  match read value with
  | some item => return item
  | none => throw .noItem

def found (error : CommandError) : Option α → Except CommandError α
  | some value => .ok value
  | none => .error error

def encodings (query : String) : Except CommandError Json := do
  let r ← (Search.Request.ofQueryString query).mapError .search
  return .ofMembers [("queryString", .string r.queryString),
    ("multiValue", .ofDict (r.valueMap.map .ofStrings))]

def relatedQuery (request : RelatedRequest) : Except CommandError RelatedQuery := do
  let direction ← (Direction.ofRequest request.direction).mapError .direction
  return {
    relation := request.relation
    direction
    template := request.template
    page := request.page }

def related (device : String) (request : RelatedRequest) : Session CommandError Json := do
  let q ← Session.ofExcept (relatedQuery request)
  if request.groups then
    let items ← (Service.Devices.relatedGroups device q).mapError .service
    let items ← Session.ofExcept (found (.noDevice device) items)
    return .array (items.map GroupItem.toJson)
  else
    let items ← (Service.Devices.relatedDevices device q).mapError .service
    let items ← Session.ofExcept (found (.noDevice device) items)
    return .array (items.map DeviceItem.toJson)

/-- Runs a command; what it answers is to be printed. -/
def run (legacy : Bool) (input : String) : Command → Session CommandError (Option Json)
  | .getDevice device options => do
    let item ← (Service.Devices.get device options).mapError .service
    return some (← Session.ofExcept (found (.noDevice device) item)).toJson
  | .createDevice => do
    let item ← Session.ofExcept (inputItem DeviceItem.recordName DeviceItem.ofJson? input)
    let id ← (Service.Devices.create item).mapError .service
    return some (.object [("deviceId", .string id)])
  | .deleteDevice device => do
    (Service.Devices.delete device).mapError .service
    return none
  | .relatedToDevice device request => do
    return some (← related device request)
  | .getGroup group => do
    let item ← (Service.Groups.get group).mapError .service
    return some (← Session.ofExcept (found (.noGroup group) item)).toJson
  | .createGroup => do
    let item ← Session.ofExcept (inputItem GroupItem.recordName GroupItem.ofJson? input)
    let path ← (Service.Groups.create item legacy).mapError .service
    return some (.object [("groupPath", .string path)])
  | .listParents group => do
    let items ← (Service.Groups.ancestors group).mapError .service
    return some (.array (items.map GroupItem.toJson))
  | .encodeSearch query => do
    return some (← Session.ofExcept (encodings query))
  | .runSearch query page => do
    return some (← (Service.Search.runQueryString query page).mapError .service).toJson

structure Outcome where
  exitCode : Nat
  output : Option Json := none
  complaint : Option String := none

def noGraph : Engine := { replies := [.failure "no graph is connected"] }

def execute (arguments : List String) (file? : String → Option String)
    (environment : List (String × String)) (input : String) (engine : Engine) : Outcome :=
  match CommandLine.ofArguments? arguments with
  | none => { exitCode := 2, complaint := some "wrong arguments" }
  | some line =>
    let result : Except CommandError (Option Json) := do
      let settings ← (AppSettings.load line.settings file? environment).mapError .settings
      (line.command.run settings.graph.legacyLabels input engine).1
    match result with
    | .ok output => { exitCode := 0, output }
    | .error error => { exitCode := 1, complaint := some ("Error: " ++ error.message) }

end Command

end DeviceGraph
