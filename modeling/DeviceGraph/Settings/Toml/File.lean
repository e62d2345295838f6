import DeviceGraph.Settings.Toml.Moment
import DeviceGraph.Settings.Toml.Number
import DeviceGraph.Settings.Toml.Table
import DeviceGraph.Settings.Toml.Text

/-!
# Settings files in TOML

A settings file is a list of lines `key = value` below headers of tables, with
comments after `#`. A value is a text, a truth value, a number, a moment, a list
in square brackets or a table in braces. A moment counts as the text that
writes it.
-/

set_option autoImplicit false

namespace DeviceGraph.Toml

/-! ## Values -/

/-- How deep lists and tables in braces may nest. -/
def depthLimit : Nat := 79

def scalar? (s : List Char) : Option (Setting × List Char) :=
  match Moment.read? s with
  | some (moment, rest) => some (.text moment.text, rest)
  | none => word? s

mutual

/-- A value, and what follows it; `fuel` bounds the steps and `depth` the nesting. -/
def value? : Nat → Nat → List Char → Option (Setting × List Char)
  | 0, _, _ => none
  | fuel + 1, depth, s =>
    match s with
    | '"' :: rest => (text? '"' rest).map fun (text, rest) => (.text text, rest)
    | '\'' :: rest => (text? '\'' rest).map fun (text, rest) => (.text text, rest)
    | '[' :: rest =>
      if depth = 0 then none
      else (items? fuel (depth - 1) rest).map fun (items, rest) => (.list items, rest)
    | '\x7b' :: rest =>
      if depth = 0 then none
      else match skipBlanks rest with
        | '\x7d' :: rest => some (.table [], rest)
        | rest => members? fuel (depth - 1) [] rest
    | s => scalar? s

def items? : Nat → Nat → List Char → Option (List Setting × List Char)
  | 0, _, _ => none
  | fuel + 1, depth, s => do
    match ← skipLines? false s with
    | ']' :: rest => return ([], rest)
    | s =>
      let (value, rest) ← value? fuel depth s
      match ← skipLines? false rest with
      | ',' :: rest =>
        let (items, rest) ← items? fuel depth rest
        return (value :: items, rest)
      | ']' :: rest => return ([value], rest)
      | _ => none

def members? : Nat → Nat → Content → List Char → Option (Setting × List Char)
  | 0, _, _, _ => none
  | fuel + 1, depth, content, s => do
    let (path, rest) ← dottedKey? s
    let (value, rest) ← value? fuel depth (skipBlanks (← after? '=' rest))
    let content ← content.assign? value path true
    match skipBlanks rest with
    | ',' :: rest => members? fuel depth content rest
    | '\x7d' :: rest => return (.table (contentSettings content), rest)
    | _ => none

end

/-! ## Files -/

/-- What has been read of a file: its content, and the header of the open table. -/
structure Progress where
  content : Content := []
  header : List String := []

namespace Progress

def openAt? (p : Progress) (path : List String) (change : String → Content → Option Content) :
    Option Progress := do
  let key ← path.getLast?
  let content ← p.content.within? (change key) path.dropLast
  return { content, header := path }

def assign? (p : Progress) (path : List String) (value : Setting) : Option Progress := do
  let content ← p.content.within? (Content.assign? value path true) p.header
  return { p with content }

end Progress

/-- What follows on a line after its last value: a comment at most. -/
def lineEnd? (s : List Char) : Option (List Char) :=
  match skipBlanks s with
  | [] => some []
  | '\n' :: rest => some rest
  | '#' :: rest => skipLines? true rest
  | _ => none

def lines? : Nat → Progress → List Char → Option Progress
  | 0, _, _ => none
  | fuel + 1, p, s => do
    match ← skipLines? false s with
    | [] => return p
    | '[' :: '[' :: rest =>
      let (path, rest) ← dottedKey? rest
      let rest ← after? ']' (← after? ']' rest)
      lines? fuel (← p.openAt? path Content.openItem?) (← lineEnd? rest)
    | '[' :: rest =>
      let (path, rest) ← dottedKey? rest
      let rest ← after? ']' rest
      lines? fuel (← p.openAt? path Content.openTable?) (← lineEnd? rest)
    | s =>
      let (path, rest) ← dottedKey? s
      let rest := skipBlanks (← after? '=' rest)
      let (value, rest) ← value? (2 * rest.length + 2) depthLimit rest
      lines? fuel (← p.assign? path value) (← lineEnd? rest)

def dropMark : List Char → List Char
  | '\ufeff' :: rest => rest
  | s => s

def ofText? (text : String) : Option Setting :=
  let s := unixLines (dropMark text.toList)
  (lines? (s.length + 1) {} s).map fun p => .table (contentSettings p.content)

end DeviceGraph.Toml
