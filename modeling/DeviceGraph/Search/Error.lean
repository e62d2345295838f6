import DeviceGraph.Error
import DeviceGraph.Text.Utf8

/-!
# Errors of a search

A request can be incomplete, hold a filter that has no written form, be written
wrongly, or fail in the graph.
-/

set_option autoImplicit false

namespace DeviceGraph

inductive SearchError
  | emptyField
  | emptyValue (field : String)
  | unsupportedValue (field : String)
  | reservedCharacter (name : String)
  | emptyRelation
  | undirectedHop (relation : String)
  | emptyRequest
  | unknownParameter (name : String)
  | malformedFilter (text : String)
  | undecodable (parameter : String) (fault : Text.Utf8.Fault)
  | graph (error : GraphError)
  deriving DecidableEq, Repr

def SearchError.message : SearchError → String
  | .emptyField => "Search filter field must not be empty"
  | .emptyValue field => "Search filter on " ++ Text.quoted field ++ " has an empty value"
  | .unsupportedValue field =>
    "Search filter on " ++ Text.quoted field ++ " must have a string, number, or boolean value"
  | .reservedCharacter name =>
    "Search filter name " ++ Text.quoted name ++ " must not contain ':' or ','"
  | .emptyRelation => "Traversal hop relation must not be empty"
  | .undirectedHop relation =>
    "Traversal hop on " ++ Text.quoted relation ++ " needs an in/out direction"
  | .emptyRequest => "Search request needs at least one type or filter"
  | .unknownParameter name => "Unknown search parameter: " ++ name
  | .malformedFilter text => "Malformed search filter: " ++ Text.quoted text
  | .undecodable parameter fault =>
    "Failed to decode search parameter " ++ parameter ++ ": " ++ fault.message
  | .graph error => error.message

end DeviceGraph
