/-!
# UTF-8

Characters are written as one to four bytes and read back. Reading stops at the
first byte sequence that is not well formed and tells how many bytes of it were
taken for the start of a character, or that the bytes end inside one.
-/

set_option autoImplicit false

namespace DeviceGraph.Text.Utf8

/-- Why bytes are not text, and the index of the first byte that is not. -/
inductive Fault
  | malformed (length index : Nat)
  | truncated (index : Nat)
  deriving DecidableEq, Repr

def Fault.message : Fault → String
  | .malformed length index =>
    s!"invalid utf-8 sequence of {length} bytes from index {index}"
  | .truncated index => s!"incomplete utf-8 byte sequence from index {index}"

def encode (s : List Char) : List UInt8 := s.flatMap String.utf8EncodeChar

def isContinuation (b : UInt8) : Bool := 0x80 ≤ b && b ≤ 0xBF

/-- The second bytes that may follow the first byte of a three-byte character. -/
def isSecondOfThree (first second : UInt8) : Bool :=
  if first = 0xE0 then 0xA0 ≤ second && second ≤ 0xBF
  else if first = 0xED then 0x80 ≤ second && second ≤ 0x9F
  else isContinuation second

def isSecondOfFour (first second : UInt8) : Bool :=
  if first = 0xF0 then 0x90 ≤ second && second ≤ 0xBF
  else if first = 0xF4 then 0x80 ≤ second && second ≤ 0x8F
  else isContinuation second

/-- The lower six bits, which a continuation byte carries. -/
def payload (b : UInt8) : Nat := b.toNat % 64

def twoByteChar (a b : UInt8) : Char := Char.ofNat (a.toNat % 32 * 64 + payload b)

def threeByteChar (a b c : UInt8) : Char :=
  Char.ofNat (a.toNat % 16 * 4096 + payload b * 64 + payload c)

def fourByteChar (a b c d : UInt8) : Char :=
  Char.ofNat (a.toNat % 8 * 262144 + payload b * 4096 + payload c * 64 + payload d)

/-- Reads characters from bytes of which the first has the given index. -/
def decodeFrom (index : Nat) : List UInt8 → Except Fault (List Char)
  | [] => .ok []
  | a :: rest =>
    if a < 0x80 then (decodeFrom (index + 1) rest).map (Char.ofNat a.toNat :: ·)
    else if 0xC2 ≤ a && a ≤ 0xDF then
      match rest with
      | [] => .error (.truncated index)
      | b :: rest =>
        if isContinuation b then (decodeFrom (index + 2) rest).map (twoByteChar a b :: ·)
        else .error (.malformed 1 index)
    else if 0xE0 ≤ a && a ≤ 0xEF then
      match rest with
      | [] => .error (.truncated index)
      | [b] =>
        if isSecondOfThree a b then .error (.truncated index) else .error (.malformed 1 index)
      | b :: c :: rest =>
        if !isSecondOfThree a b then .error (.malformed 1 index)
        else if !isContinuation c then .error (.malformed 2 index)
        else (decodeFrom (index + 3) rest).map (threeByteChar a b c :: ·)
    else if 0xF0 ≤ a && a ≤ 0xF4 then
      match rest with
      | [] => .error (.truncated index)
      | [b] =>
        if isSecondOfFour a b then .error (.truncated index) else .error (.malformed 1 index)
      | [b, c] =>
        if !isSecondOfFour a b then .error (.malformed 1 index)
        else if isContinuation c then .error (.truncated index)
        else .error (.malformed 2 index)
      | b :: c :: d :: rest =>
        if !isSecondOfFour a b then .error (.malformed 1 index)
        else if !isContinuation c then .error (.malformed 2 index)
        else if !isContinuation d then .error (.malformed 3 index)
        else (decodeFrom (index + 4) rest).map (fourByteChar a b c d :: ·)
    else .error (.malformed 1 index)

def decode (bytes : List UInt8) : Except Fault (List Char) := decodeFrom 0 bytes

end DeviceGraph.Text.Utf8
