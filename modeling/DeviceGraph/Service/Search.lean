import DeviceGraph.Search.Results
import DeviceGraph.Search.Wire
import DeviceGraph.Service.Error

/-!
# Search service

Searches from a request or from either of its written forms.
-/

set_option autoImplicit false

namespace DeviceGraph.Service.Search

open DeviceGraph.Search

def run (r : Request) (page : Option Page) : Session ServiceError Results :=
  (DeviceGraph.Search.run r page).mapError fun error => .search (.graph error)

def runQueryString (query : String) (page : Option Page) : Session ServiceError Results := do
  let r ← Session.ofExcept ((Request.ofQueryString query).mapError .search)
  run r page

def runValueMap (parameters : Dict (List String)) (page : Option Page) :
    Session ServiceError Results := do
  let r ← Session.ofExcept ((Request.ofValueMap parameters).mapError .search)
  run r page

end DeviceGraph.Service.Search
