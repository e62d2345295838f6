import DeviceGraph.Search.Error

/-!
# Errors of the services

An operation can be refused because something that it needs does not exist or
because its input is not complete, or fail in one of the layers below.
-/

set_option autoImplicit false

namespace DeviceGraph

inductive Missing
  | device (id : String)
  | component (id owner : String)
  | group (path : String)
  | parentGroup (path : String)
  deriving DecidableEq, Repr

def Missing.text : Missing → String
  | .device id => "device " ++ id
  | .component id owner => "component " ++ id ++ " of device " ++ owner
  | .group path => "group " ++ path
  | .parentGroup path => "parent group " ++ path

inductive Incomplete
  | deviceTemplate (id : String)
  | groupTemplate (path : String)
  | relationship
  deriving DecidableEq, Repr

def Incomplete.text : Incomplete → String
  | .deviceTemplate id => "device " ++ id ++ " has no template"
  | .groupTemplate path => "group " ++ path ++ " has no template"
  | .relationship => "relationship must not be empty"

inductive ServiceError
  | notFound (what : Missing)
  | invalidInput (what : Incomplete)
  | domain (error : DomainError)
  | graph (error : GraphError)
  | search (error : SearchError)
  deriving DecidableEq, Repr

namespace ServiceError

def message : ServiceError → String
  | notFound what => "Not found: " ++ what.text
  | invalidInput what => "Invalid input: " ++ what.text
  | domain error => error.message
  | graph error => error.message
  | search error => error.message

/-- Whether an operation met a stored entity with an incomplete type chain. -/
def isInvalidLabels : ServiceError → Bool
  | domain (.invalidLabels _ _) => true
  | graph error => error.isInvalidLabels
  | _ => false

end ServiceError

namespace Service

variable {α : Type}

/-- A check of the domain, before the store is asked. -/
def check (result : Except DomainError α) : Except ServiceError α := result.mapError .domain

def checkRelationship (relation : String) : Except ServiceError Unit :=
  if relation = "" then .error (.invalidInput .relationship) else .ok ()

end Service

end DeviceGraph
