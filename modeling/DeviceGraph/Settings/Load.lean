import DeviceGraph.Json.Reader
import DeviceGraph.Settings.App
import DeviceGraph.Settings.Environment
import DeviceGraph.Settings.Toml.File
import DeviceGraph.Text.Pieces

/-!
# Loading settings

Settings come from a settings file, if there is one, and from environment
variables, which replace what the file says.
-/

set_option autoImplicit false

namespace DeviceGraph

inductive SettingsError
  | unreadableFile (name : String)
  | unusableValue
  deriving DecidableEq, Repr

def SettingsError.message : SettingsError → String
  | .unreadableFile name => "settings file " ++ name ++ " cannot be read"
  | .unusableValue => "a setting has a value of the wrong kind"

namespace Setting

mutual

def ofJson : Json → Setting
  | .null => .null
  | .bool b => .bool b
  | .number (.whole n) =>
    if Number.fitsSigned n then .whole n
    else match Double.ofQuotient? n.natAbs 1 with
      | some x => .real (.finite (x.withSign (n < 0)))
      | none => .real (.infinite (n < 0))
  | .number (.double x) => .real (.finite x)
  | .string s => .text s
  | .array items => .list (ofItems items)
  | .object members => .table (ofMembers members)

def ofItems : List Json → List Setting
  | [] => []
  | item :: rest => ofJson item :: ofItems rest

def ofMembers : List (String × Json) → List (String × Setting)
  | [] => []
  | (key, value) :: rest => (key, ofJson value) :: ofMembers rest

end

def ofJsonText? (text : String) : Option Setting :=
  match Json.ofText? text with
  | some (.object members) => some (ofJson (.object members))
  | _ => none

abbrev Form := String → Option Setting

def forms : List (String × Form) := [("toml", Toml.ofText?), ("json", ofJsonText?)]

/-- What stands behind the last point of a name, unless the point comes first. -/
def extension (name : String) : String :=
  let pieces := Text.pieces '.' name.toList
  if pieces.dropLast.flatten = [] && pieces.length < 3 then ""
  else String.ofList (pieces.getLast?.getD [])

/-- A name that a settings file can have, and the form of the file; without a form it is
left aside. -/
structure Candidate where
  name : String
  form : Option Form

/-- The names that a settings file can have, in the order in which they are looked for: the
name as it stands unless it ends like a folder, and the name with an end added. Parts of the
name that lead nowhere are dropped. -/
def candidates (stem : String) : List Candidate :=
  let pieces := Text.split '/' stem
  let parts := pieces.filter fun piece => piece ≠ "" ∧ piece ≠ "."
  let name := (if stem.toList.head? = some '/' then "/" else "") ++ Text.join "/" parts
  match parts.getLast? with
  | none | some ".." => []
  | some last =>
    (if pieces.getLast? = some last then [⟨name, forms.lookup (extension last)⟩] else []) ++
      forms.map fun form => ⟨name ++ "." ++ form.1, some form.2⟩

def withoutMark (content : String) : String :=
  match content.toList with
  | '\ufeff' :: rest => String.ofList rest
  | _ => content

/-- The assignments of a settings file; a key at its top may write a path. -/
def fileAssignments (root : Setting) : List (List Step × Setting) :=
  root.entries.map fun entry => (path (Text.lowerCase entry.1), entry.2)

/-- The assignments of the first settings file that exists, none without a file. -/
def loadFile (file? : String → Option String) :
    List Candidate → Except SettingsError (List (List Step × Setting))
  | [] => .ok []
  | candidate :: rest =>
    match file? candidate.name, candidate.form with
    | none, _ => loadFile file? rest
    | some _, none => .ok []
    | some content, some read =>
      match read (withoutMark content) with
      | some root => .ok (fileAssignments root)
      | none => .error (.unreadableFile candidate.name)

end Setting

def AppSettings.load (stem : String) (file? : String → Option String)
    (environment : List (String × String)) : Except SettingsError AppSettings := do
  let fromFile ← Setting.loadFile file? (Setting.candidates stem)
  let fromVariables := environment.filterMap fun entry =>
    Setting.assignmentOfVariable? entry.1 entry.2
  match AppSettings.ofSetting? (Setting.ofAssignments (fromFile ++ fromVariables)) with
  | some settings => return settings
  | none => throw .unusableValue

end DeviceGraph
