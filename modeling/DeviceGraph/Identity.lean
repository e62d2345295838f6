import DeviceGraph.Error

/-!
# Vertex ids

A vertex id joins the prefix of a category and its natural keys with three
underscores: `device___d`, `group___g`, and `device___d___c` for a component of
a device. The separator is never escaped. So a key must not hold it, and a key
with another one after it must not end in an underscore, which would shift the
place where the id is cut.
-/

set_option autoImplicit false

namespace DeviceGraph.Identity

def separator : String := "___"

/-- What the ids of a category begin with; components share it with devices. -/
def idPrefix : Category → String
  | .device | .component => "device"
  | .group => "group"

def keyCount : Category → Nat
  | .device | .group => 1
  | .component => 2

/-- The parts of an id, cut at the leftmost separators. -/
def parts : List Char → List (List Char)
  | '_' :: '_' :: '_' :: rest => [] :: parts rest
  | c :: rest => Text.pushFront c (parts rest)
  | [] => [[]]

def hasSeparator : List Char → Bool
  | '_' :: '_' :: '_' :: _ => true
  | _ :: rest => hasSeparator rest
  | [] => false

def validateKey (key : String) : Except DomainError Unit :=
  if key = "" then .error (.malformedIdentity .emptyKey)
  else if hasSeparator key.toList then .error (.malformedIdentity (.reservedSeparator key))
  else .ok ()

/-- Whether a key can stand in a vertex id with another key after it. -/
def validateParentKey (key : String) : Except DomainError Unit := do
  validateKey key
  if key.toList.getLast? = some '_' then throw (.malformedIdentity (.openParent key))

def validateKeys : List String → Except DomainError Unit
  | [] => .ok ()
  | [key] => validateKey key
  | key :: next :: rest => do
    validateParentKey key
    validateKeys (next :: rest)

def encode (category : Category) (keys : List String) : Except DomainError String :=
  if keys.length ≠ keyCount category then
    .error (.malformedIdentity (.partCount category (keyCount category) keys.length))
  else do
    validateKeys keys
    return keys.foldl (fun id key => id ++ separator ++ key) (idPrefix category)

def layout? (head : String) (count : Nat) : Option Category :=
  Category.all.find? (fun c => idPrefix c = head ∧ keyCount c = count)

def decode (id : String) : Except DomainError (Category × List String) :=
  let texts := (parts id.toList).map String.ofList
  let head := texts.headD ""
  let keys := texts.drop 1
  if keys = [] ∨ "" ∈ keys then .error (.malformedIdentity (.missingParts id))
  else match layout? head keys.length with
    | some category => .ok (category, keys)
    | none => .error (.malformedIdentity (.unknownLayout id))

def isCategory (id : String) (category : Category) : Bool :=
  match decode id with
  | .ok (found, _) => found = category
  | .error _ => false

/-- The natural key of the entity itself, the last key of its id. -/
def naturalKey (id : String) : Except DomainError String := do
  let (_, keys) ← decode id
  return keys.getLastD ""

def deviceId (device : String) : Except DomainError String := encode .device [device]

def groupId (path : String) : Except DomainError String := encode .group [path]

def componentId (device component : String) : Except DomainError String :=
  encode .component [device, component]

end DeviceGraph.Identity
