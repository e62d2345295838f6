import DeviceGraph.Json.Record
import DeviceGraph.Number.Reading

/-!
# Pages

A page says which part of a list is wanted.
-/

set_option autoImplicit false

namespace DeviceGraph

/-- A window on a list, from `offset` up to but not with `offset + count`. -/
structure Page where
  offset : Nat
  count : Nat
  deriving DecidableEq, Repr

namespace Page

def last (p : Page) : Nat := p.offset + p.count

/-- Offsets and counts are 32-bit numbers. -/
def ofJson? (j : Json) : Option Page := do
  let r ← j.record? ["offset", "count"]
  return {
    offset := ← r.required "offset" (Json.natBelow? Number.word32)
    count := ← r.required "count" (Json.natBelow? Number.word32) }

end Page

end DeviceGraph
