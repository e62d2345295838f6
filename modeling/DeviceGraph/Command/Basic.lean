import DeviceGraph.Command.Arguments
import DeviceGraph.Number.Reading
import DeviceGraph.Store.Devices

/-!
# Commands

A command line names one operation on devices, groups or searches. The settings
file can be named on every level of it.
-/

set_option autoImplicit false

namespace DeviceGraph

/-- Which entities related to a device are listed; the direction is not yet read. -/
structure RelatedRequest where
  relation : String
  direction : String
  template : Option String
  /-- Groups instead of devices. -/
  groups : Bool
  page : Option Page
  deriving DecidableEq, Repr

inductive Command
  | getDevice (device : String) (options : ReadOptions)
  | createDevice
  | deleteDevice (device : String)
  | relatedToDevice (device : String) (request : RelatedRequest)
  | getGroup (group : String)
  | createGroup
  | listParents (group : String)
  | encodeSearch (query : String)
  | runSearch (query : String) (page : Option Page)
  deriving DecidableEq, Repr

/-- A command and the name of the settings file, without its end. -/
structure CommandLine where
  settings : String
  command : Command
  deriving DecidableEq, Repr

namespace Command

def defaultSettings : String := "assetgraph"

def settingsOption : String := "config"

def withSettings (g : Grammar) : Grammar :=
  { g with options := settingsOption :: g.options, short := [('c', settingsOption)] }

def number? (found : Found) (name : String) : Option (Option Nat) :=
  match found.value? name with
  | none => some none
  | some text =>
    match Number.signed? text with
    | some n => if 0 ≤ n ∧ n < (Number.word32 : Int) then some (some n.toNat) else none
    | none => none

/-- A page of which either bound may be missing; none if both are. -/
def pageOf (offset count : Option Nat) : Option Page :=
  match offset, count with
  | none, none => none
  | offset, count => some ⟨offset.getD 0, count.getD (Number.word32 - 1)⟩

def page? (found : Found) : Option (Option Page) := do
  return pageOf (← number? found "offset") (← number? found "count")

/-- The grammar of an operation, and how its command is made from what was found. -/
abbrev Operation := Grammar × (Found → Option Command)

def bare (command : Command) : Operation :=
  ({}, fun found => if found.words = [] then some command else none)

def onWord (g : Grammar) (make : Found → String → Option Command) : Operation :=
  (g, fun found => match found.words with
    | [word] => make found word
    | _ => none)

/-- The values of an option, each a list with commas; none if it is not given. -/
def listOption (found : Found) (name : String) : Option (List String) :=
  match found.allValues name with
  | [] => none
  | values => some (values.flatMap (Text.split ','))

def getDeviceOperation : Operation :=
  onWord { flags := ["components", "groups"], lists := ["attributes"] } fun found device =>
    some (.getDevice device {
      components := found.hasFlag "components"
      groups := found.hasFlag "groups"
      attributes := listOption found "attributes" })

def relatedOperation : Operation :=
  onWord { flags := ["groups"],
           options := ["relationship", "direction", "template", "offset", "count"] }
    fun found device => do
      let page ← page? found
      return .relatedToDevice device {
        relation := (found.value? "relationship").getD "*"
        direction := (found.value? "direction").getD "both"
        template := found.value? "template"
        groups := found.hasFlag "groups"
        page }

def runSearchOperation : Operation :=
  onWord { options := ["offset", "count"] } fun found query => do
    return .runSearch query (← page? found)

def operation? (resource name : String) : Option Operation :=
  match resource, name with
  | "device", "get" => some getDeviceOperation
  | "device", "create" => some (bare .createDevice)
  | "device", "delete" => some (onWord {} fun _ device => some (.deleteDevice device))
  | "device", "related" => some relatedOperation
  | "group", "get" => some (onWord {} fun _ group => some (.getGroup group))
  | "group", "create" => some (bare .createGroup)
  | "group", "parents" => some (onWord {} fun _ group => some (.listParents group))
  | "search", "encode" => some (onWord {} fun _ query => some (.encodeSearch query))
  | "search", "run" => some runSearchOperation
  | _, _ => none

/-- Reads up to the next name of a resource or operation. -/
def nextName? (arguments : List String) : Option (Found × String × List String) :=
  match scan (withSettings {}) true arguments {} with
  | some (found, rest) =>
    match found.words with
    | [name] => some (found, name, rest)
    | _ => none
  | none => none

end Command

/-- Reads a command line; none if it is wrong. The settings file named last counts. -/
def CommandLine.ofArguments? (arguments : List String) : Option CommandLine := do
  let (outer, resource, rest) ← Command.nextName? arguments
  let (middle, name, rest) ← Command.nextName? rest
  let (g, make) ← Command.operation? resource name
  let (inner, _) ← Command.scan (Command.withSettings g) false rest {}
  let command ← make inner
  let named := [inner, middle, outer].findSome? (·.value? Command.settingsOption)
  return { settings := named.getD Command.defaultSettings, command }

end DeviceGraph
