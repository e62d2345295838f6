import DeviceGraph.Text.Pieces

/-!
# Command line arguments

An argument is a word, or an option `--name`, whose value follows as the next
argument or behind `=`. The short form `-c` has its value behind it at once or
as the next argument. After `--` every argument is a word.
-/

set_option autoImplicit false

namespace DeviceGraph.Command

inductive Argument
  | word (text : String)
  | option (name : String) (attached : Option String)
  | wordsOnly
  deriving DecidableEq, Repr

abbrev ShortNames := List (Char × String)

/-- The value behind a short option, with or without an equals sign. -/
def attachedValue : List Char → Option String
  | [] => none
  | '=' :: value => some (String.ofList value)
  | value => some (String.ofList value)

/-- The form of an argument; a short option without a name keeps its letter. -/
def Argument.of (short : ShortNames) (argument : String) : Argument :=
  match argument.toList with
  | ['-', '-'] => wordsOnly
  | '-' :: '-' :: rest =>
    let (name, value) := Text.cutFirst '=' rest
    option (String.ofList name) (value.map String.ofList)
  | '-' :: letter :: rest =>
    option ((short.lookup letter).getD (String.ofList ['-', letter])) (attachedValue rest)
  | _ => word argument

def isValue (argument : String) : Bool :=
  argument = "-" || argument.toList.head? ≠ some '-'

structure Grammar where
  flags : List String := []
  /-- Options with a value, given once. -/
  options : List String := []
  /-- Options with a value, given any number of times. -/
  lists : List String := []
  short : ShortNames := []

structure Found where
  words : List String := []
  values : List (String × String) := []
  flags : List String := []

namespace Found

def addWord (found : Found) (word : String) : Found := { found with words := found.words ++ [word] }

def value? (found : Found) (name : String) : Option String := found.values.lookup name

def allValues (found : Found) (name : String) : List String :=
  (found.values.filter (·.1 = name)).map (·.2)

def hasFlag (found : Found) (name : String) : Bool := found.flags.contains name

/-- Adds a value unless the option has one and takes one only. -/
def addValue? (found : Found) (g : Grammar) (name value : String) : Option Found :=
  if (found.value? name).isSome && !g.lists.contains name then none
  else some { found with values := found.values ++ [(name, value)] }

def addFlag? (found : Found) (name : String) : Option Found :=
  if found.hasFlag name then none else some { found with flags := found.flags ++ [name] }

end Found

/-- Reads arguments, all of them or up to the first word, and what follows it. -/
def scan (g : Grammar) (toFirstWord : Bool) :
    List String → Found → Option (Found × List String)
  | [], found => some (found, [])
  | argument :: rest, found =>
    match Argument.of g.short argument with
    | .word word =>
      if toFirstWord then some (found.addWord word, rest)
      else scan g toFirstWord rest (found.addWord word)
    | .wordsOnly =>
      if toFirstWord then none else some ({ found with words := found.words ++ rest }, [])
    | .option name attached =>
      if g.flags.contains name then
        match attached, found.addFlag? name with
        | none, some found => scan g toFirstWord rest found
        | _, _ => none
      else if g.options.contains name || g.lists.contains name then
        match attached, rest with
        | some value, rest =>
          match found.addValue? g name value with
          | some found => scan g toFirstWord rest found
          | none => none
        | none, value :: rest =>
          match isValue value, found.addValue? g name value with
          | true, some found => scan g toFirstWord rest found
          | _, _ => none
        | none, [] => none
      else none

end DeviceGraph.Command
