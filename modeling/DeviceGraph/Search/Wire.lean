import DeviceGraph.Number.Reading
import DeviceGraph.Search.Request
import DeviceGraph.Text.Percent

/-!
# Written forms of a request

A filter is written as its hops, its field and its value with colons between
them, `rel:dir:field:value`; a colon inside the value is written `%3A`. A query
string joins the values of a parameter with commas and percent-codes them, so
that a colon of a value stands there as `%253A`. The map of parameters keeps one
text for each type and filter, and codes nothing.
-/

set_option autoImplicit false

namespace DeviceGraph.Search

def escapeColons (text : List Char) : List Char :=
  text.flatMap fun c => if c = ':' then ['%', '3', 'A'] else [c]

def restoreColons : List Char → List Char
  | '%' :: '3' :: 'A' :: rest => ':' :: restoreColons rest
  | c :: rest => c :: restoreColons rest
  | [] => []

namespace Filter

def wire (f : Filter) : String :=
  Text.join ":" (f.hops.flatMap (fun hop => [hop.relation, hop.direction.text]) ++
    [f.field, String.ofList (escapeColons f.valueText.toList)])

/-- A value text as a value; operators that compare by size read numbers. -/
def readValue (op : Operator) (text : String) : Json :=
  if op.isRange then
    match Number.signed? text, Number.finite? text with
    | some n, _ => .number (.whole n)
    | none, some x => .number (.double x)
    | none, none => .string text
  else .string text

/-- The direction of a hop, which is never both. -/
def hopDirection? (text : String) : Option Direction :=
  (Direction.ofText? text).filter (· ≠ .both)

def ofParts? (op : Operator) : List String → Option Filter
  | [field, value] =>
    some ⟨field, readValue op (String.ofList (restoreColons value.toList)), []⟩
  | relation :: direction :: rest => do
    let direction ← hopDirection? direction
    let f ← ofParts? op rest
    return { f with hops := ⟨relation, direction⟩ :: f.hops }
  | _ => none

def ofWire (op : Operator) (text : String) : Except SearchError Filter :=
  match ofParts? op (Text.split ':' text) with
  | some f => .ok f
  | none => .error (.malformedFilter text)

end Filter

def typeParameter : String := "type"
def ancestorParameter : String := "ancestorPath"
def summarizeParameter : String := "summarize"

namespace Request

/-- The parameters of a request with their values, in the order in which they are written. -/
def parameters (r : Request) : List (String × List String) :=
  (if r.types = [] then [] else [(typeParameter, r.types)]) ++
  (r.ancestorPath.toList.map fun path => (ancestorParameter, [path])) ++
  (r.filters.entries.map fun entry => (entry.1.name, entry.2.map Filter.wire)) ++
  (if r.summarize then [(summarizeParameter, ["true"])] else [])

def queryString (r : Request) : String :=
  Text.join "&" (r.parameters.map fun parameter =>
    parameter.1 ++ "=" ++ Text.Percent.encode (Text.join "," parameter.2))

def valueMap (r : Request) : Dict (List String) := Dict.ofList r.parameters

end Request

namespace Draft

def addFilters (op : Operator) : Draft → List String → Except SearchError Draft
  | d, [] => .ok d
  | d, text :: rest => do
    let f ← Filter.ofWire op text
    addFilters op (d.filter op f) rest

def apply (d : Draft) (parameter : String) (values : List String) : Except SearchError Draft :=
  if parameter = typeParameter then
    .ok ((values.filter (· ≠ "")).foldl withType d)
  else if parameter = ancestorParameter then
    match values with
    | [] => .ok d
    | path :: _ => .ok (d.below path)
  else if parameter = summarizeParameter then
    .ok (d.summarizing (values.contains "true"))
  else match Operator.ofName? parameter with
    | some op => addFilters op d values
    | none => .error (.unknownParameter parameter)

def applyPiece (d : Draft) (piece : List Char) : Except SearchError Draft := do
  let (name, coded) := Text.cutFirst '=' piece
  let name := String.ofList name
  let text ← (Text.Percent.decode (String.ofList (coded.getD []))).mapError (.undecodable name)
  d.apply name (Text.split ',' text)

end Draft

namespace Request

/-- The pieces of a query string that are not empty; a question mark in front is dropped. -/
def queryPieces (query : String) : List (List Char) :=
  let text := match query.toList with
    | '?' :: rest => rest
    | text => text
  (Text.pieces '&' text).filter (· ≠ [])

def ofQueryString (query : String) : Except SearchError Request := do
  let d ← (queryPieces query).foldlM Draft.applyPiece {}
  d.build

def ofValueMap (parameters : Dict (List String)) : Except SearchError Request := do
  let d ← parameters.entries.foldlM (fun d entry => Draft.apply d entry.1 entry.2) {}
  d.build

end Request

end DeviceGraph.Search
