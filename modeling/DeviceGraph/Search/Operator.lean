/-!
# Search operators

Nine comparisons, in the order in which they are written. The four that compare
by size also read number texts as numbers.
-/

set_option autoImplicit false

namespace DeviceGraph.Search

inductive Operator
  | eq
  | neq
  | lt
  | lte
  | gt
  | gte
  | startsWith
  | endsWith
  | contains
  deriving DecidableEq, Repr

namespace Operator

def all : List Operator := [eq, neq, lt, lte, gt, gte, startsWith, endsWith, contains]

/-- The name of the parameter that holds the filters of an operator. -/
def name : Operator → String
  | eq => "eq"
  | neq => "neq"
  | lt => "lt"
  | lte => "lte"
  | gt => "gt"
  | gte => "gte"
  | startsWith => "startsWith"
  | endsWith => "endsWith"
  | contains => "contains"

def ofName? (text : String) : Option Operator := all.find? (fun op => op.name = text)

def isRange : Operator → Bool
  | lt | lte | gt | gte => true
  | _ => false

def comparison : Operator → String
  | eq => "="
  | neq => "<>"
  | lt => "<"
  | lte => "<="
  | gt => ">"
  | gte => ">="
  | startsWith => "STARTS WITH"
  | endsWith => "ENDS WITH"
  | contains => "CONTAINS"

theorem mem_all (op : Operator) : op ∈ all := by cases op <;> decide

theorem ofName?_name (op : Operator) : ofName? op.name = some op := by cases op <;> decide

end Operator

end DeviceGraph.Search
