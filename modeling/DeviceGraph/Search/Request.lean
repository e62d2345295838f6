import DeviceGraph.Json.Printer
import DeviceGraph.Node.Json
import DeviceGraph.Search.Error
import DeviceGraph.Search.Operator

/-!
# Search requests

A search names types, a group to stay below, and filters by operator. A filter
compares a field of an entity, or of one that is reached from it by hops over
relations. A draft collects all of this in any order and becomes a request when
every filter has a written form.
-/

set_option autoImplicit false

namespace DeviceGraph.Search

structure Hop where
  relation : String
  direction : Direction
  deriving DecidableEq, Repr

/-- Compares a field to a value at the end of the hops. -/
structure Filter where
  field : String
  value : Json
  hops : List Hop := []
  deriving DecidableEq

namespace Filter

/-- The value as text: a string as it is, anything else as its value text. -/
def valueText (f : Filter) : String :=
  match f.value with
  | .string s => s
  | value => value.text

def checkName (name : String) : Except SearchError Unit :=
  if ':' ∈ name.toList ∨ ',' ∈ name.toList then .error (.reservedCharacter name) else .ok ()

/-- Whether a value has a written form; the field is named in the error. -/
def checkValue (field : String) : Json → Except SearchError Unit
  | .string s => if s = "" then .error (.emptyValue field) else .ok ()
  | .number _ | .bool _ => .ok ()
  | _ => .error (.unsupportedValue field)

def checkHop (hop : Hop) : Except SearchError Unit := do
  if hop.relation = "" then throw .emptyRelation
  checkName hop.relation
  if hop.direction = .both then throw (.undirectedHop hop.relation)

def check (f : Filter) : Except SearchError Unit := do
  if f.field = "" then throw .emptyField
  checkName f.field
  checkValue f.field f.value
  f.hops.forM checkHop

end Filter

/-- The filters of each operator in the order in which they were added. -/
abbrev Filters := Operator → List Filter

namespace Filters

def entries (filters : Filters) : List (Operator × List Filter) :=
  (Operator.all.map fun op => (op, filters op)).filter (!·.2.isEmpty)

/-- Every filter with its operator, in the order in which they are written. -/
def toList (filters : Filters) : List (Operator × Filter) :=
  Operator.all.flatMap fun op => (filters op).map fun f => (op, f)

def add (filters : Filters) (op : Operator) (f : Filter) : Filters :=
  fun other => if other = op then filters other ++ [f] else filters other

end Filters

structure Request where
  types : List String
  ancestorPath : Option String
  summarize : Bool
  filters : Filters

/-- What has been asked for so far. -/
structure Draft where
  types : List String := []
  ancestorPath : Option String := none
  summarize : Bool := false
  filters : Filters := fun _ => []

namespace Draft

def withType (d : Draft) (type : String) : Draft := { d with types := d.types ++ [type] }

def below (d : Draft) (path : String) : Draft := { d with ancestorPath := some path }

def summarizing (d : Draft) (summarize : Bool) : Draft := { d with summarize }

def filter (d : Draft) (op : Operator) (f : Filter) : Draft :=
  { d with filters := d.filters.add op f }

/-- The request of a draft; types count once and an empty path for none. -/
def build (d : Draft) : Except SearchError Request := do
  if d.types = [] ∧ d.filters.toList = [] then throw .emptyRequest
  if "" ∈ d.types then throw (.malformedFilter "empty type")
  d.filters.toList.forM fun entry => entry.2.check
  return {
    types := d.types.eraseDups
    ancestorPath := d.ancestorPath.filter (· ≠ "")
    summarize := d.summarize
    filters := d.filters }

end Draft

/-! ## Requests in JSON -/

def Operator.ofJson? (j : Json) : Option Operator := j.tag?.bind ofName?

def Hop.ofJson? (j : Json) : Option Hop := do
  let r ← j.record? ["relation", "direction"]
  return {
    relation := ← r.required "relation" Json.string?
    direction := ← r.required "direction" Direction.ofJson? }

def Hop.toJson (hop : Hop) : Json :=
  .ofMembers [("relation", .string hop.relation), ("direction", .string hop.direction.text)]

def Filter.ofJson? (j : Json) : Option Filter := do
  let r ← j.record? ["field", "value", "traversals"]
  return {
    field := ← r.required "field" Json.string?
    value := ← r.required "value" some
    hops := ← r.defaulted "traversals" [] (Json.list? Hop.ofJson?) }

def Filter.toJson (f : Filter) : Json :=
  .ofMembers ([("field", .string f.field), ("value", f.value)] ++
    if f.hops = [] then [] else [("traversals", .array (f.hops.map Hop.toJson))])

/-- Whether two filters are the same, numbers of different kinds never. -/
def Filter.same (f g : Filter) : Bool :=
  f.field == g.field && f.value.same g.value && f.hops == g.hops

def Filter.sameAll : List Filter → List Filter → Bool
  | [], [] => true
  | f :: fs, g :: gs => f.same g && sameAll fs gs
  | _, _ => false

def Request.same (r q : Request) : Bool :=
  r.types == q.types && r.ancestorPath == q.ancestorPath && r.summarize == q.summarize &&
    Operator.all.all fun op => Filter.sameAll (r.filters op) (q.filters op)

end DeviceGraph.Search
