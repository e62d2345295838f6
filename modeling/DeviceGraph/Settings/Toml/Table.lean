import DeviceGraph.Settings.Basic

/-!
# Tables in TOML

A table grows while a file is read. Headers name tables and items of lists of
tables, dotted keys name tables inside the open one, and what neither has named
itself is made on the way. A table named by a header is closed to dotted keys
from elsewhere, and nothing is named twice.
-/

set_option autoImplicit false

namespace DeviceGraph.Toml

/-- How a table came to be: named by a header, on the way to one that is, or by a dotted
key. -/
inductive Origin
  | header
  | implied
  | dotted
  deriving DecidableEq, Repr

/-- What stands under a key: a value, a table, or a list of tables of which the last one is
open. -/
inductive Item
  | value (s : Setting)
  | table (origin : Origin) (content : List (String × Item))
  | tables (earlier : List (List (String × Item))) (last : List (String × Item))

/-- The items of a table in the order in which they were named. -/
abbrev Content := List (String × Item)

namespace Content

def replace (key : String) (item : Item) (content : Content) : Content :=
  content.map fun entry => if entry.1 = key then (key, item) else entry

/-- Changes the table that a header names. -/
def within? (change : Content → Option Content) : List String → Content → Option Content
  | [], content => change content
  | key :: path, content =>
    match Entries.get? key content with
    | none => do
      let inner ← within? change path []
      return content ++ [(key, .table .implied inner)]
    | some (.table origin inner) => do
      let inner ← within? change path inner
      return replace key (.table origin inner) content
    | some (.tables earlier last) => do
      let last ← within? change path last
      return replace key (.tables earlier last) content
    | some (.value _) => none

def openTable? (key : String) (content : Content) : Option Content :=
  match Entries.get? key content with
  | none => some (content ++ [(key, .table .header [])])
  | some (.table .implied inner) => some (replace key (.table .header inner) content)
  | some _ => none

/-- Opens a new table at the end of the list that a header names. -/
def openItem? (key : String) (content : Content) : Option Content :=
  match Entries.get? key content with
  | none => some (content ++ [(key, .tables [] [])])
  | some (.tables earlier last) => some (replace key (.tables (earlier ++ [last]) []) content)
  | some _ => none

/-- Assigns a value to a dotted key; `mayEnd` says whether its last key may stand in this
very table, which it may in the open one and in those that dotted keys have named. -/
def assign? (value : Setting) : List String → Bool → Content → Option Content
  | [], _, _ => none
  | [key], mayEnd, content =>
    if mayEnd && (Entries.get? key content).isNone then some (content ++ [(key, .value value)])
    else none
  | key :: path, _, content =>
    match Entries.get? key content with
    | none => do
      let inner ← assign? value path true []
      return content ++ [(key, .table .dotted inner)]
    | some (.table .dotted inner) => do
      let inner ← assign? value path true inner
      return replace key (.table .dotted inner) content
    | some (.table .implied inner) => do
      let inner ← assign? value path false inner
      return replace key (.table .implied inner) content
    | some (.tables earlier last) => do
      let last ← assign? value path false last
      return replace key (.tables earlier last) content
    | some (.table .header _) | some (.value _) => none

end Content

mutual

def Item.setting : Item → Setting
  | .value s => s
  | .table _ content => .table (contentSettings content)
  | .tables earlier last => .list (tableSettings earlier ++ [.table (contentSettings last)])

def contentSettings : List (String × Item) → List (String × Setting)
  | [] => []
  | (key, item) :: rest => (key, item.setting) :: contentSettings rest

def tableSettings : List (List (String × Item)) → List Setting
  | [] => []
  | content :: rest => .table (contentSettings content) :: tableSettings rest

end

end DeviceGraph.Toml
