import DeviceGraph.Settings.Basic

/-!
# Paths of settings

A path leads from a table to a value inside it: over keys of tables and over
indices of lists, written `key.key[index]`. Settings are collected by writing
values at paths, of which a later one replaces an earlier one. What stands in
the way of a path is replaced by the table or list that the path goes through.
-/

set_option autoImplicit false

namespace DeviceGraph.Setting

/-- One step of a path. A negative index counts from the end of the list. -/
inductive Step
  | key (name : String)
  | item (index : Int)
  deriving DecidableEq, Repr

/-! ## Reading paths -/

def isKeyChar (c : Char) : Bool := c.isAlphanum || c = ' ' || c = '_' || c = '-'

def isBlank (c : Char) : Bool := c = ' ' || c = '\t'

def key? (s : List Char) : Option (String × List Char) :=
  let name := s.takeWhile isKeyChar
  if name = [] then none else some (String.ofList name, s.dropWhile isKeyChar)

def index? (s : List Char) : Option (Int × List Char) :=
  let (sign, digits) := match s.dropWhile isBlank with
    | '-' :: rest => (['-'], rest)
    | rest => ([], rest)
  let number := String.ofList (sign ++ digits.takeWhile Char.isDigit)
  match Number.signed? number, (digits.dropWhile Char.isDigit).dropWhile isBlank with
  | some index, ']' :: rest => some (index, rest)
  | _, _ => none

def steps? : Nat → List Char → Option (List Step)
  | _, [] => some []
  | 0, _ => none
  | fuel + 1, '.' :: rest => do
    let (name, rest) ← key? rest
    return .key name :: (← steps? fuel rest)
  | fuel + 1, '[' :: rest => do
    let (index, rest) ← index? rest
    return .item index :: (← steps? fuel rest)
  | _, _ => none

/-- The path that a text writes. A text that writes none is a key by itself. -/
def path (text : String) : List Step :=
  let steps : Option (List Step) := do
    let (name, rest) ← key? text.toList
    return .key name :: (← steps? rest.length rest)
  steps.getD [.key text]

/-! ## Writing at paths -/

def entries : Setting → List (String × Setting)
  | .table entries => entries
  | _ => []

def items : Setting → List Setting
  | .list items => items
  | _ => []

/-- The place of an index, and the items with `null` added where it needs more of them:
at the front when it counts from the end, at the end when it does not. -/
def place (index : Int) (items : List Setting) : Nat × List Setting :=
  if 0 ≤ index then
    (index.toNat, items ++ List.replicate (index.toNat + 1 - items.length) .null)
  else
    (items.length - index.natAbs, List.replicate (index.natAbs - items.length) .null ++ items)

/-- The value under a key of a table, an empty table if there is none. -/
def entry (root : Setting) (name : String) : Setting :=
  (Entries.get? name root.entries).getD (.table [])

def setEntry (root : Setting) (name : String) (value : Setting) : Setting :=
  .table (Entries.insert name value root.entries)

def update (change : Setting → Setting) : List Step → Setting → Setting
  | [], root => change root
  | .key name :: rest, root => root.setEntry name (update change rest (root.entry name))
  | .item index :: rest, root =>
    let (n, items) := place index root.items
    .list (items.modify n (update change rest))

mutual

/-- Writes a value over another one. The entries of a table are written one by one,
their keys in lower case; any other value replaces what was there. -/
def overlay (old : Setting) : Setting → Setting
  | .table entries => overlayEntries old entries
  | value => value

def overlayEntries (old : Setting) : List (String × Setting) → Setting
  | [] => old
  | (name, value) :: rest =>
    let name := Text.lowerCase name
    overlayEntries (old.setEntry name (overlay (old.entry name) value)) rest

end

/-- Writes a value at a path: over what a key leads to, in place of a list's item. -/
def write (path : List Step) (value root : Setting) : Setting :=
  match path.getLast? with
  | some (.item _) => update (fun _ => value) path root
  | _ => update (fun old => overlay old value) path root

def ofAssignments (assignments : List (List Step × Setting)) : Setting :=
  assignments.foldl (fun root assignment => write assignment.1 assignment.2 root) (.table [])

end DeviceGraph.Setting
