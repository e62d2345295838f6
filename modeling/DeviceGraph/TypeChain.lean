import DeviceGraph.Text.Pieces

/-!
# Type chains

The types of an entity, the most specific first, are stored as one text with
`::` between neighbours. Cutting it drops empty pieces.
-/

set_option autoImplicit false

namespace DeviceGraph.TypeChain

/-- The pieces of a text between double colons, cut from the left. -/
def pieces : List Char → List (List Char)
  | ':' :: ':' :: rest => [] :: pieces rest
  | c :: rest => Text.pushFront c (pieces rest)
  | [] => [[]]

def split (chain : String) : List String :=
  ((pieces chain.toList).filter (· ≠ [])).map String.ofList

def join (types : List String) : String := Text.join "::" types

end DeviceGraph.TypeChain
