import DeviceGraph.Command.Run

/-!
# The program

Reads the settings files, the environment and the input, runs the command line
and prints what it answers.
-/

set_option autoImplicit false

namespace DeviceGraph.Command

def variableNames : List String :=
  "ASSETGRAPH__LOG_FORMAT" :: GraphSettings.fields.map fun field =>
    "ASSETGRAPH__NEO4J__" ++ field.toUpper

def readFile? (name : String) : IO (Option String) :=
  try return some (← IO.FS.readFile name) catch _ => return none

end DeviceGraph.Command

open DeviceGraph DeviceGraph.Command in
def main (arguments : List String) : IO UInt32 := do
  let line := CommandLine.ofArguments? arguments
  let stem := (line.map (·.settings)).getD defaultSettings
  let files ← (Setting.candidates stem).mapM fun candidate =>
    return (candidate.name, ← readFile? candidate.name)
  let environment ← variableNames.filterMapM fun name =>
    return (← IO.getEnv name).map fun value => (name, value)
  let input ← match line with
    | some ⟨_, .createDevice⟩ | some ⟨_, .createGroup⟩ => (← IO.getStdin).readToEnd
    | _ => pure ""
  let outcome := execute arguments (fun name => (files.lookup name).join) environment input noGraph
  if let some output := outcome.output then IO.println output.text
  if let some complaint := outcome.complaint then IO.eprintln complaint
  return outcome.exitCode.toUInt32
