import DeviceGraph.Category
import DeviceGraph.Json.Basic
import DeviceGraph.TypeChain

/-!
# Nodes

A node is an entity as it was read or is to be written: its natural key, its
types, its attributes, and the nodes that it is linked to, by direction and
relation.
-/

set_option autoImplicit false

namespace DeviceGraph

/-- What an entity is linked to: for each direction that has been opened, the
linked entities by relation, sorted by relation name. -/
structure Links (α : Type) where
  incoming : Option (List (String × List α)) := none
  outgoing : Option (List (String × List α)) := none
  both : Option (List (String × List α)) := none

namespace Links

variable {α : Type}

def side : Links α → Direction → Option (List (String × List α))
  | links, .incoming => links.incoming
  | links, .outgoing => links.outgoing
  | links, .both => links.both

def setSide (links : Links α) (direction : Direction) (side : List (String × List α)) : Links α :=
  match direction with
  | .incoming => { links with incoming := some side }
  | .outgoing => { links with outgoing := some side }
  | .both => { links with both := some side }

def isEmpty (links : Links α) : Bool :=
  links.incoming.isNone && links.outgoing.isNone && links.both.isNone

/-- Adds a linked entity behind those of the same direction and relation. -/
def add (links : Links α) (direction : Direction) (relation : String) (other : α) : Links α :=
  links.setSide direction (Entries.append relation other ((links.side direction).getD []))

def get (links : Links α) (direction : Direction) (relation : String) : List α :=
  (Entries.get? relation ((links.side direction).getD [])).getD []

/-- Every relation with its direction and linked entities: first what comes in,
then what goes out, then what may be either. -/
def entries (links : Links α) : List (Direction × String × List α) :=
  Direction.all.flatMap fun direction =>
    ((links.side direction).getD []).map fun entry => (direction, entry.1, entry.2)

def targets (links : Links α) : List α := links.entries.flatMap (·.2.2)

end Links

structure Node where
  id : String
  types : List String
  category : Category
  attributes : Dict Json := .empty
  links : Links Node := {}
  vertexId : Option String := none

namespace Node

/-- A node whose types are a template and the label of its category. -/
def ofTemplate (id template : String) (category : Category) : Node :=
  { id, types := [template, category.label], category }

def template? (n : Node) : Option String := n.types.head?

def typeChain (n : Node) : String := TypeChain.join n.types

def setAttribute (n : Node) (key : String) (value : Json) : Node :=
  { n with attributes := n.attributes.insert key value }

def addLink (n : Node) (direction : Direction) (relation : String) (other : Node) : Node :=
  { n with links := n.links.add direction relation other }

def linked (n : Node) (direction : Direction) (relation : String) : List Node :=
  n.links.get direction relation

def linkCount (n : Node) : Nat := n.links.targets.length

end Node

end DeviceGraph
