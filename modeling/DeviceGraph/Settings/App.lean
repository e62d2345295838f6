import DeviceGraph.Json.Record
import DeviceGraph.Settings.Basic

/-!
# The settings of the program

How the graph is reached and how the log is written. A setting that is missing
has a value of its own. In JSON a value must be of the right kind; from files
and variables it is converted.
-/

set_option autoImplicit false

namespace DeviceGraph

structure GraphSettings where
  uri : String := "bolt://localhost:7687"
  user : String := "neo4j"
  password : String := "assetgraph-dev"
  maxConnections : Nat := 16
  fetchSize : Nat := 256
  /-- Whether a single label may be read as a type chain. -/
  legacyLabels : Bool := true
  deriving DecidableEq, Repr

inductive LogFormat
  | text
  | json
  deriving DecidableEq, Repr

structure AppSettings where
  graph : GraphSettings := {}
  logFormat : LogFormat := .text
  deriving DecidableEq, Repr

/-! ## Settings in JSON -/

namespace GraphSettings

def fields : List String :=
  ["uri", "user", "password", "max_connections", "fetch_size", "legacy_label_fallback"]

def ofJson? (j : Json) : Option GraphSettings := do
  let r ← j.record? fields
  let default : GraphSettings := {}
  return {
    uri := ← r.defaulted "uri" default.uri Json.string?
    user := ← r.defaulted "user" default.user Json.string?
    password := ← r.defaulted "password" default.password Json.string?
    maxConnections :=
      ← r.defaulted "max_connections" default.maxConnections (Json.natBelow? Number.word32)
    fetchSize := ← r.defaulted "fetch_size" default.fetchSize (Json.natBelow? Number.word64)
    legacyLabels := ← r.defaulted "legacy_label_fallback" default.legacyLabels Json.bool? }

def toJson (g : GraphSettings) : Json :=
  .ofMembers [("uri", .string g.uri), ("user", .string g.user), ("password", .string g.password),
    ("max_connections", .ofNat g.maxConnections), ("fetch_size", .ofNat g.fetchSize),
    ("legacy_label_fallback", .bool g.legacyLabels)]

/-- Reads settings that may have to be converted. The number of connections has 32 bits. -/
def ofSetting? (s : Setting) : Option GraphSettings := do
  let members ← s.record? fields
  let default : GraphSettings := {}
  return {
    uri := ← Setting.field members "uri" default.uri Setting.string?
    user := ← Setting.field members "user" default.user Setting.string?
    password := ← Setting.field members "password" default.password Setting.string?
    maxConnections := ← Setting.field members "max_connections" default.maxConnections
      (Setting.naturalBelow? Number.word32)
    fetchSize := ← Setting.field members "fetch_size" default.fetchSize Setting.natural?
    legacyLabels :=
      ← Setting.field members "legacy_label_fallback" default.legacyLabels Setting.bool? }

end GraphSettings

namespace LogFormat

def name : LogFormat → String
  | .text => "text"
  | .json => "json"

def ofName? (name : String) : Option LogFormat :=
  [LogFormat.text, LogFormat.json].find? (fun format => format.name = name)

def ofJson? (j : Json) : Option LogFormat := j.tag?.bind ofName?

/-- Reads the name of a format in either case, also as the only key of a table. -/
def ofSetting? : Setting → Option LogFormat
  | .text name => ofName? (Text.lowerCase name)
  | .table [(name, _)] => ofName? (Text.lowerCase name)
  | _ => none

end LogFormat

namespace AppSettings

def fields : List String := ["neo4j", "log_format"]

def ofJson? (j : Json) : Option AppSettings := do
  let r ← j.record? fields
  return {
    graph := ← r.defaulted "neo4j" {} GraphSettings.ofJson?
    logFormat := ← r.defaulted "log_format" .text LogFormat.ofJson? }

def toJson (a : AppSettings) : Json :=
  .ofMembers [("neo4j", a.graph.toJson), ("log_format", .string a.logFormat.name)]

def ofSetting? (s : Setting) : Option AppSettings := do
  let members ← s.record? fields
  return {
    graph := ← Setting.field members "neo4j" {} GraphSettings.ofSetting?
    logFormat := ← Setting.field members "log_format" .text LogFormat.ofSetting? }

end AppSettings

end DeviceGraph
