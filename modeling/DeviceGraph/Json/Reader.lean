import DeviceGraph.Json.Form
import DeviceGraph.Json.Printer
import DeviceGraph.Json.Token
import DeviceGraph.Text.Printable

/-!
# Reading JSON text

The reader takes one value of a given form with blanks around it, or says what
is first wrong with the text and where. Of two members with one key the later
stays in a dictionary, and in a record a field may stand once only. Values nest
less than 128 deep, except where they are ignored.
-/

set_option autoImplicit false

namespace DeviceGraph.Json

/-- How deep arrays and objects may nest. -/
def depthLimit : Nat := 127

/-! ## Between values -/

/-- Whether another item of an array follows, and the text from it or the closing bracket on;
`first` says that none has been read. -/
def nextItem (first : Bool) (s : List Char) : Except Fault (Bool × List Char) :=
  match skipBlanks s with
  | [] => Problem.endInArray.here []
  | ']' :: rest => .ok (false, ']' :: rest)
  | c :: rest =>
    if first then .ok (true, c :: rest)
    else if c = ',' then
      match skipBlanks rest with
      | [] => Problem.endInValue.here []
      | ']' :: rest => Problem.commaAtEnd.next (']' :: rest)
      | rest => .ok (true, rest)
    else Problem.noArrayEnd.next (c :: rest)

def endItems (s : List Char) : Except Fault (List Char) :=
  match skipBlanks s with
  | [] => Problem.endInArray.here []
  | ']' :: rest => .ok rest
  | ',' :: rest =>
    match skipBlanks rest with
    | ']' :: rest => Problem.commaAtEnd.next (']' :: rest)
    | rest => Problem.moreText.next rest
  | rest => Problem.moreText.next rest

/-- Whether another member of an object follows, and the text from its key or the closing
brace on; `first` says that none has been read. -/
def nextMember (first : Bool) (s : List Char) : Except Fault (Bool × List Char) :=
  let key (s : List Char) : Except Fault (Bool × List Char) :=
    match s with
    | '"' :: rest => .ok (true, '"' :: rest)
    | rest => Problem.noKey.next rest
  match skipBlanks s with
  | [] => Problem.endInObject.here []
  | '\x7d' :: rest => .ok (false, '\x7d' :: rest)
  | c :: rest =>
    if first then key (c :: rest)
    else if c = ',' then
      match skipBlanks rest with
      | [] => Problem.endInValue.here []
      | '\x7d' :: rest => Problem.commaAtEnd.next ('\x7d' :: rest)
      | rest => key rest
    else Problem.noObjectEnd.next (c :: rest)

def dropColon (s : List Char) : Except Fault (List Char) :=
  match skipBlanks s with
  | [] => Problem.endInObject.here []
  | ':' :: rest => .ok rest
  | rest => Problem.noColon.next rest

/-! ## Skipping values -/

mutual

def skipValue : Nat → List Char → Except Fault (List Char)
  | 0, s => Problem.tooDeep.here s
  | fuel + 1, s =>
    match skipBlanks s with
    | [] => Problem.endInValue.here []
    | 'n' :: rest => dropWord "ull".toList rest
    | 't' :: rest => dropWord "rue".toList rest
    | 'f' :: rest => dropWord "alse".toList rest
    | '"' :: rest => skipString fuel rest
    | '[' :: rest =>
      match skipBlanks rest with
      | [] => Problem.endInArray.here []
      | ']' :: rest => .ok rest
      | rest => skipItems fuel rest
    | '\x7b' :: rest =>
      match skipBlanks rest with
      | [] => Problem.endInObject.here []
      | '\x7d' :: rest => .ok rest
      | rest => skipMembers fuel rest
    | c :: rest =>
      if c = '-' || c.isDigit then skipNumeral (c :: rest) else Problem.noValue.next (c :: rest)

def skipItems : Nat → List Char → Except Fault (List Char)
  | 0, s => Problem.tooDeep.here s
  | fuel + 1, s => do
    match skipBlanks (← skipValue fuel s) with
    | [] => Problem.endInArray.here []
    | ',' :: rest => skipItems fuel rest
    | ']' :: rest => return rest
    | rest => Problem.noArrayEnd.next rest

def skipMembers : Nat → List Char → Except Fault (List Char)
  | 0, s => Problem.tooDeep.here s
  | fuel + 1, s => do
    match skipBlanks s with
    | [] => Problem.endInObject.here []
    | '"' :: rest =>
      match skipBlanks (← skipValue fuel (← dropColon (← skipString fuel rest))) with
      | [] => Problem.endInObject.here []
      | ',' :: rest => skipMembers fuel rest
      | '\x7d' :: rest => return rest
      | rest => Problem.noObjectEnd.next rest
    | rest => Problem.noKey.next rest

end

/-! ## Reading values -/

def numeralName : Numeral → String
  | .whole n => "integer `" ++ decimalText n ++ "`"
  | .double x => "floating point `" ++ x.text ++ "`"

/-- The fault that a value is of another kind than expected. A fault inside the value comes
first. -/
def wrongKind {α : Type} (fuel : Nat) (expected : String) (s : List Char) : Except Fault α := do
  let fault (found : String) (rest : List Char) : Except Fault α :=
    (Problem.wrongKind found expected).here rest
  match s with
  | 'n' :: rest => fault "null" (← dropWord "ull".toList rest)
  | 't' :: rest => fault "boolean `true`" (← dropWord "rue".toList rest)
  | 'f' :: rest => fault "boolean `false`" (← dropWord "alse".toList rest)
  | '"' :: rest =>
    let (text, rest) ← readString fuel rest
    fault ("string " ++ Text.quoted (String.ofList text)) rest
  | '[' :: _ => fault "sequence" s
  | '\x7b' :: _ => fault "map" s
  | c :: _ =>
    if c = '-' || c.isDigit then
      let (n, rest) ← readNumeral s
      fault (numeralName n) rest
    else Problem.noValue.next s
  | [] => Problem.endInValue.here []

/-- Behind the bracket of an array or object, which may be nested too deep. -/
def enter (depth : Nat) (s : List Char) : Except Fault (Nat × List Char) :=
  match depth with
  | 0 => Problem.tooDeep.next s
  | depth + 1 => .ok (depth, s.drop 1)

/-- The fault of a field that stands twice. The closing brace is passed if it follows. -/
def repeatedField {α : Type} (name : String) (s : List Char) : Except Fault α :=
  match skipBlanks s with
  | '\x7d' :: rest => (Problem.repeatedField name).here rest
  | rest => (Problem.repeatedField name).here rest

mutual

/-- Reads a value of a form; `fuel` bounds the steps and `depth` the nesting. -/
def readValue (layouts : Layouts) :
    Nat → Nat → Form → List Char → Except Fault (Json × List Char)
  | 0, _, _, s => Problem.tooDeep.here s
  | fuel + 1, depth, form, s => do
    match skipBlanks s with
    | [] => Problem.endInValue.here []
    | c :: rest =>
      match form with
      | .any =>
        if c = 'n' then return (.null, ← dropWord "ull".toList rest)
        else if c = 't' then return (.bool true, ← dropWord "rue".toList rest)
        else if c = 'f' then return (.bool false, ← dropWord "alse".toList rest)
        else if c = '"' then readValue layouts fuel depth .string (c :: rest)
        else if c = '[' then readValue layouts fuel depth (.list .any) (c :: rest)
        else if c = '\x7b' then readValue layouts fuel depth (.dict .any) (c :: rest)
        else if c = '-' || c.isDigit then
          let (n, rest) ← readNumeral (c :: rest)
          return (.number n, rest)
        else Problem.noValue.next (c :: rest)
      | .string =>
        if c = '"' then
          let (text, rest) ← readString fuel rest
          return (.string (String.ofList text), rest)
        else wrongKind fuel "a string" (c :: rest)
      | .optional form =>
        if c = 'n' then return (.null, ← dropWord "ull".toList rest)
        else readValue layouts fuel depth form (c :: rest)
      | .list item =>
        if c = '[' then
          let (depth, rest) ← enter depth (c :: rest)
          let (items, rest) ← readItems layouts fuel depth item true rest
          return (.array items, rest)
        else wrongKind fuel "a sequence" (c :: rest)
      | .dict value =>
        if c = '\x7b' then
          let (depth, rest) ← enter depth (c :: rest)
          let (members, rest) ← readMembers layouts fuel depth value [] true rest
          return (.object members, rest)
        else wrongKind fuel "a map" (c :: rest)
      | .record name =>
        if c = '[' then
          let (depth, rest) ← enter depth (c :: rest)
          let (items, rest) ← readInOrder layouts fuel depth name 0 rest
          return (.array items, rest)
        else if c = '\x7b' then
          let (depth, rest) ← enter depth (c :: rest)
          let (members, rest) ← readFields layouts fuel depth (layouts name) [] true rest
          return (.object members, rest)
        else wrongKind fuel (recordName name) (c :: rest)

def readItems (layouts : Layouts) :
    Nat → Nat → Form → Bool → List Char → Except Fault (List Json × List Char)
  | 0, _, _, _, s => Problem.tooDeep.here s
  | fuel + 1, depth, form, first, s => do
    let (more, s) ← nextItem first s
    if more then
      let (item, s) ← readValue layouts fuel depth form s
      let (items, s) ← readItems layouts fuel depth form false s
      return (item :: items, s)
    else return ([], s.drop 1)

def readMembers (layouts : Layouts) :
    Nat → Nat → Form → List (String × Json) → Bool → List Char →
      Except Fault (List (String × Json) × List Char)
  | 0, _, _, _, _, s => Problem.tooDeep.here s
  | fuel + 1, depth, form, read, first, s => do
    let (more, s) ← nextMember first s
    if more then
      let (key, s) ← readString fuel (s.drop 1)
      let (value, s) ← readValue layouts fuel depth form (← dropColon s)
      readMembers layouts fuel depth form (Entries.insert (String.ofList key) value read) false s
    else return (read, s.drop 1)

def readFields (layouts : Layouts) :
    Nat → Nat → List Field → List (String × Json) → Bool → List Char →
      Except Fault (List (String × Json) × List Char)
  | 0, _, _, _, _, s => Problem.tooDeep.here s
  | fuel + 1, depth, fields, read, first, s => do
    let (more, s) ← nextMember first s
    if more then
      let (key, s) ← readString fuel (s.drop 1)
      match fields.find? fun field => field.name = String.ofList key with
      | none => readFields layouts fuel depth fields read false (← skipValue fuel (← dropColon s))
      | some field =>
        if (Entries.get? field.name read).isSome then repeatedField field.name s
        else
          let (value, s) ← readValue layouts fuel depth field.form (← dropColon s)
          readFields layouts fuel depth fields (Entries.insert field.name value read) false s
    else
      match fields.find? fun field => field.required && (Entries.get? field.name read).isNone with
      | some field => (Problem.missingField field.name).here (s.drop 1)
      | none => return (read, s.drop 1)

def readInOrder (layouts : Layouts) :
    Nat → Nat → String → Nat → List Char → Except Fault (List Json × List Char)
  | 0, _, _, _, s => Problem.tooDeep.here s
  | fuel + 1, depth, name, count, s => do
    let fields := layouts name
    match fields[count]? with
    | none => return ([], ← endItems s)
    | some field =>
      let (more, s) ← nextItem (count = 0) s
      if more then
        let (value, s) ← readValue layouts fuel depth field.form s
        let (values, s) ← readInOrder layouts fuel depth name (count + 1) s
        return (value :: values, s)
      else
        match (fields.drop count).findIdx? (·.required) with
        | some n =>
          (Problem.wrongLength (count + n) (recordSize name fields.length)).here (s.drop 1)
        | none => return ([], s.drop 1)

end

def read (layouts : Layouts) (form : Form) (text : String) : Except Complaint Json :=
  let chars := text.toList
  let result : Except Fault Json := do
    let (value, rest) ← readValue layouts (4 * chars.length + 4) depthLimit form chars
    match skipBlanks rest with
    | [] => return value
    | rest => Problem.moreText.next rest
  result.mapError (Fault.complaint chars)

def ofText? (text : String) : Option Json :=
  match read (fun _ => []) .any text with
  | .ok value => some value
  | .error _ => none

end DeviceGraph.Json
