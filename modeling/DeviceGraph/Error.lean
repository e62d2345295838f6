import DeviceGraph.Category
import DeviceGraph.Text.Printable

/-!
# Errors of the graph

An error names its cause. The wording of each cause is given once, in `message`.
-/

set_option autoImplicit false

namespace DeviceGraph

inductive IdentityFault
  | emptyKey
  | reservedSeparator (key : String)
  | openParent (key : String)
  | partCount (category : Category) (expected got : Nat)
  | missingParts (id : String)
  | unknownLayout (id : String)
  deriving DecidableEq, Repr

def IdentityFault.message : IdentityFault → String
  | .emptyKey => "natural key must not be empty"
  | .reservedSeparator key =>
    "natural key " ++ Text.quoted key ++ " contains the reserved separator \"___\""
  | .openParent key => "parent key " ++ Text.quoted key ++ " must not end in '_'"
  | .partCount category expected got =>
    category.label ++ " ids take " ++ toString expected ++ " key part(s), got " ++ toString got
  | .missingParts id => "vertex id " ++ Text.quoted id ++ " has missing key parts"
  | .unknownLayout id => "vertex id " ++ Text.quoted id ++ " does not match a known category layout"

inductive DomainError
  | malformedIdentity (fault : IdentityFault)
  | invalidLabels (id : String) (labels : List String)
  | unknownDirection (text : String)
  deriving DecidableEq, Repr

def DomainError.message : DomainError → String
  | .malformedIdentity fault => "Malformed identity: " ++ fault.message
  | .invalidLabels id labels =>
    "Invalid labels for " ++ id ++ ": expected at least 2, got " ++ Text.quotedList labels
  | .unknownDirection text => "Unknown direction: " ++ text

inductive RowFault
  | noId
  | malformed
  deriving DecidableEq, Repr

def RowFault.message : RowFault → String
  | .noId => "vertex projection has no id"
  | .malformed => "row has an unknown form"

inductive GraphError
  | engine (reason : String)
  | unreadable (fault : RowFault)
  | invalidIdentifier (name : String)
  | undirectedEdge
  | domain (error : DomainError)
  deriving DecidableEq, Repr

namespace GraphError

def message : GraphError → String
  | .engine reason => "Graph engine error: " ++ reason
  | .unreadable fault => "Unexpected traversal result: " ++ fault.message
  | .invalidIdentifier name => "Invalid graph identifier: " ++ Text.quoted name
  | .undirectedEdge =>
    "Invalid argument: a relationship edge needs an explicit in/out direction"
  | .domain error => error.message

/-- Whether a stored entity has an incomplete type chain. -/
def isInvalidLabels : GraphError → Bool
  | .domain (.invalidLabels _ _) => true
  | _ => false

end GraphError

def liftDomain {α : Type} : Except DomainError α → Except GraphError α :=
  Except.mapError .domain

def Direction.ofRequest (text : String) : Except DomainError Direction :=
  match ofRequest? text with
  | some direction => .ok direction
  | none => .error (.unknownDirection text)

end DeviceGraph
