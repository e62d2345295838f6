import DeviceGraph.Statement.Basic

/-!
# The recording engine

The engine keeps every statement submitted to it and answers each with the next
queued reply, or with no rows when none is queued. Every operation on the graph
opens a session, submits in it, and releases it once, whatever the answer was. A
release that fails is logged and changes no result. The ids of new edges come from
a source that the engine is given, by the number of statements before the edge and
its place in its own; the numbered ids serve where no other source is given.
-/

set_option autoImplicit false

namespace DeviceGraph

inductive Reply
  | rows (rows : List Json)
  | failure (reason : String)
  deriving DecidableEq

inductive LogEvent
  | releaseFailed (operation : String) (error : GraphError)
  | incompleteLabels (vertexId : String) (labels : List String)
  | reservedProperty (vertexId key : String)
  deriving DecidableEq

namespace LogEvent

def level : LogEvent → String
  | .releaseFailed .. | .reservedProperty .. => "WARN"
  | .incompleteLabels .. => "ERROR"

def message : LogEvent → String
  | .releaseFailed .. => "Failed to release traversal source"
  | .incompleteLabels .. => "Vertex does not have correct labels"
  | .reservedProperty .. => "Ignoring update of reserved property"

def fields : LogEvent → List (String × String)
  | .releaseFailed operation error => [("operation", operation), ("error", error.message)]
  | .incompleteLabels vertexId labels =>
    [("vertex_id", vertexId), ("labels", Text.quotedList labels)]
  | .reservedProperty vertexId key => [("vertex_id", vertexId), ("key", key)]

end LogEvent

def hexText (width n : Nat) : List Char :=
  let digits := Nat.toDigits 16 (n % Nat.pow 16 width)
  List.replicate (width - digits.length) '0' ++ digits

/-- An id in the form of a random UUID. -/
def numberedId (statement place : Nat) : String :=
  String.ofList (hexText 8 place ++ "-6a1e-4d5c-9b3f-".toList ++ hexText 12 statement)

/-- What the engine has recorded and has yet to answer. -/
structure Engine where
  replies : List Reply := []
  submitted : List Statement := []
  opened : Nat := 0
  closed : Nat := 0
  failClose : Bool := false
  newId : Nat → Nat → String := numberedId
  log : List LogEvent := []

/-- An action on the engine that may fail with an error. -/
abbrev Session (ε α : Type) := ExceptT ε (StateM Engine) α

namespace Engine

def openSession (e : Engine) : Engine := { e with opened := e.opened + 1 }

/-- Records a statement and takes the next reply. -/
def submit (e : Engine) (s : Statement) : Except GraphError (List Json) × Engine :=
  let e := { e with submitted := e.submitted ++ [s] }
  match e.replies with
  | [] => (.ok [], e)
  | .rows rows :: rest => (.ok rows, { e with replies := rest })
  | .failure reason :: rest => (.error (.engine reason), { e with replies := rest })

def note (e : Engine) (event : LogEvent) : Engine := { e with log := e.log ++ [event] }

def release (e : Engine) (operation : String) : Engine :=
  let e := { e with closed := e.closed + 1 }
  if e.failClose then e.note (.releaseFailed operation (.engine "close failed")) else e

/-- Runs one statement in a session of its own. -/
def runStatement (operation : String) (s : Statement) (e : Engine) :
    Except GraphError (List Json) × Engine :=
  let (answer, e) := e.openSession.submit s
  (answer, e.release operation)

/-- Runs statements in one session; their answers, and the engine before and
after the release. -/
def runAll (operation : String) (statements : List Statement) (e : Engine) :
    List (Except GraphError (List Json)) × Engine × Engine :=
  let (answers, e) := statements.foldl
    (fun (answers, e) s => let (answer, e) := e.submit s; (answers ++ [answer], e))
    ([], e.openSession)
  (answers, e, e.release operation)

def edgeIds (e : Engine) : Nat → String := e.newId e.submitted.length

end Engine

namespace Session

variable {ε α : Type}

def ofExcept (result : Except ε α) : Session ε α := fun e => (result, e)

def ofDomain (result : Except DomainError α) : Session GraphError α := ofExcept (liftDomain result)

def run (operation : String) (s : Statement) : Session GraphError (List Json) :=
  fun e => e.runStatement operation s

def edgeIds : Session ε (Nat → String) := fun e => (.ok e.edgeIds, e)

def note (event : LogEvent) : Session ε Unit := fun e => (.ok (), e.note event)

def mapError {ε' : Type} (f : ε → ε') (action : Session ε α) : Session ε' α :=
  fun e => let (result, e) := action e; (result.mapError f, e)

end Session

end DeviceGraph
