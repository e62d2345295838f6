import DeviceGraph.Text.Utf8

/-!
# Faults in JSON text

What is wrong with a text that is read as JSON, and where. A place is a line
and the number of bytes in front of it on that line. It is the end of what was
read, or some bytes further when the fault is in what comes next.
-/

set_option autoImplicit false

namespace DeviceGraph.Json

inductive Problem
  | endInArray
  | endInObject
  | endInString
  | endInValue
  | noColon
  | noArrayEnd
  | noObjectEnd
  | noWord
  | noValue
  | noKey
  | badEscape
  | badNumeral
  | outOfRange
  | controlCharacter
  | loneSurrogate
  | halfSurrogate
  | commaAtEnd
  | moreText
  | tooDeep
  | missingField (name : String)
  | repeatedField (name : String)
  | wrongLength (length : Nat) (expected : String)
  | wrongKind (found expected : String)
  deriving DecidableEq, Repr

def Problem.message : Problem → String
  | .endInArray => "EOF while parsing a list"
  | .endInObject => "EOF while parsing an object"
  | .endInString => "EOF while parsing a string"
  | .endInValue => "EOF while parsing a value"
  | .noColon => "expected `:`"
  | .noArrayEnd => "expected `,` or `]`"
  | .noObjectEnd => "expected `,` or `\x7d`"
  | .noWord => "expected ident"
  | .noValue => "expected value"
  | .noKey => "key must be a string"
  | .badEscape => "invalid escape"
  | .badNumeral => "invalid number"
  | .outOfRange => "number out of range"
  | .controlCharacter => "control character (\\u0000-\\u001F) found while parsing a string"
  | .loneSurrogate => "lone leading surrogate in hex escape"
  | .halfSurrogate => "unexpected end of hex escape"
  | .commaAtEnd => "trailing comma"
  | .moreText => "trailing characters"
  | .tooDeep => "recursion limit exceeded"
  | .missingField name => "missing field `" ++ name ++ "`"
  | .repeatedField name => "duplicate field `" ++ name ++ "`"
  | .wrongLength length expected =>
    "invalid length " ++ toString length ++ ", expected " ++ expected
  | .wrongKind found expected => "invalid type: " ++ found ++ ", expected " ++ expected

/-- A problem that was met with some text left to read; `ahead` counts the bytes of it that
have been looked at. -/
structure Fault where
  problem : Problem
  rest : List Char
  ahead : Nat
  deriving DecidableEq, Repr

def Problem.here {α : Type} (problem : Problem) (rest : List Char) : Except Fault α :=
  .error ⟨problem, rest, 0⟩

def Problem.next {α : Type} (problem : Problem) (rest : List Char) : Except Fault α :=
  .error ⟨problem, rest, 1⟩

/-- The number of bytes that write a text. -/
def byteCount (s : List Char) : Nat := s.foldl (fun n c => n + c.utf8Size) 0

structure Complaint where
  problem : Problem
  line : Nat
  column : Nat
  deriving DecidableEq, Repr

def Complaint.message (c : Complaint) : String :=
  c.problem.message ++ " at line " ++ toString c.line ++ " column " ++ toString c.column

def Fault.complaint (text : List Char) (fault : Fault) : Complaint :=
  let read := (Text.Utf8.encode text).take
    (byteCount text - byteCount fault.rest + fault.ahead)
  { problem := fault.problem
    line := read.count 10 + 1
    column := (read.reverse.takeWhile (· ≠ 10)).length }

end DeviceGraph.Json
