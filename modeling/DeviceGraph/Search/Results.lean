import DeviceGraph.Search.Statement
import DeviceGraph.Store.Entity

/-!
# Results of a search

A search answers with a count or with the entities that were found.
-/

set_option autoImplicit false

namespace DeviceGraph.Search

inductive Results
  | summary (total : Nat)
  | found (entities : List Node)

def Results.toJson : Results → Json
  | .summary total => .object [("total", .ofNat total)]
  | .found entities => .object [("results", .array (entities.map Node.toJson))]

/-- The count in the first row, zero if there is none. -/
def totalOfRows (rows : List Json) : Nat :=
  ((rows.head?).bind (Json.natBelow? Number.word64)).getD 0

def run (r : Request) (page : Option Page) : Session GraphError Results := do
  let s ← Session.ofExcept (r.statement page)
  let rows ← Session.run "search.search" s
  if r.summarize then return .summary (totalOfRows rows)
  else return .found (← Session.ofExcept (rows.mapM Assembly.nodeOfRow))

end DeviceGraph.Search
