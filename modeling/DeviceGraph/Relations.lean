import DeviceGraph.Category
import DeviceGraph.Json.Form
import DeviceGraph.Json.Record

/-!
# Declared relations

The relations that an entity is created with: for each direction and relation
name the natural keys of the other ends, in the order in which they were added.
-/

set_option autoImplicit false

namespace DeviceGraph

/-- Keys of other entities by relation, for edges that come in and that go out. -/
structure Relations where
  incoming : Dict (List String) := .empty
  outgoing : Dict (List String) := .empty
  deriving DecidableEq

namespace Relations

def empty : Relations := {}

def isEmpty (r : Relations) : Bool :=
  r.incoming.entries.all (·.2.isEmpty) && r.outgoing.entries.all (·.2.isEmpty)

/-- Adds another end; what is not known to come in goes out. -/
def add (r : Relations) (direction : Direction) (relation key : String) : Relations :=
  match direction with
  | .incoming => { r with incoming := r.incoming.append relation key }
  | _ => { r with outgoing := r.outgoing.append relation key }

/-- Every named end with its direction and relation, incoming ones first. -/
def entries (r : Relations) : List (Direction × String × String) :=
  let side (direction : Direction) (d : Dict (List String)) :=
    d.entries.flatMap fun entry => entry.2.map fun key => (direction, entry.1, key)
  side .incoming r.incoming ++ side .outgoing r.outgoing

def toJson (r : Relations) : Json :=
  let side (name : String) (d : Dict (List String)) : List (String × Json) :=
    if d.isEmpty then [] else [(name, .ofDict (d.map .ofStrings))]
  .object (side "in" r.incoming ++ side "out" r.outgoing)

def recordName : String := "DirectionalRelations"

def layout : List Json.Field :=
  [⟨"in", .dict (.list .string), false⟩, ⟨"out", .dict (.list .string), false⟩]

def ofJson? (j : Json) : Option Relations := do
  let r ← j.record? (layout.map (·.name))
  let side := Json.dictOf? (Json.list? Json.string?)
  return {
    incoming := ← r.defaulted "in" .empty side
    outgoing := ← r.defaulted "out" .empty side }

end Relations

end DeviceGraph
