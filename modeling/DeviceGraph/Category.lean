/-!
# Categories and directions

Every entity of the graph is a device, a group or a component of a device, and
carries the name of its category as a label. An edge is seen from one of its
ends: it comes in when the other end is its origin, and goes out when this end is.
-/

set_option autoImplicit false

namespace DeviceGraph

inductive Category
  | device
  | group
  | component
  deriving DecidableEq, Repr

namespace Category

def label : Category → String
  | .device => "device"
  | .group => "group"
  | .component => "component"

def all : List Category := [.device, .group, .component]

def ofLabel? (label : String) : Option Category := all.find? (fun c => c.label = label)

/-- The category that a type chain names: group before component before device. -/
def ofTypes? (types : List String) : Option Category :=
  [group, component, device].find? (fun c => types.contains c.label)

end Category

inductive Direction
  | incoming
  | outgoing
  | both
  deriving DecidableEq, Repr

namespace Direction

def text : Direction → String
  | .incoming => "in"
  | .outgoing => "out"
  | .both => "both"

def all : List Direction := [.incoming, .outgoing, .both]

def ofText? (text : String) : Option Direction := all.find? (fun d => d.text = text)

/-- The direction that a caller asks for; no text asks for both. -/
def ofRequest? (text : String) : Option Direction := if text = "" then some .both else ofText? text

end Direction

end DeviceGraph
