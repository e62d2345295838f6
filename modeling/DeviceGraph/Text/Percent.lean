import DeviceGraph.Text.Utf8

/-!
# Hexadecimal digits and percent coding

Hexadecimal digits are read in either case and written in upper case.

Inside a query string a byte is written as a percent sign and two of them, unless
it is a letter, a digit or one of `-_.!~*'()`. Reading leaves a percent sign that
no two digits follow as it is, and then reads the bytes as UTF-8.
-/

set_option autoImplicit false

namespace DeviceGraph.Text

def hexValue? (c : Char) : Option Nat :=
  if '0' ≤ c ∧ c ≤ '9' then some (c.toNat - 48)
  else if 'A' ≤ c ∧ c ≤ 'F' then some (c.toNat - 55)
  else if 'a' ≤ c ∧ c ≤ 'f' then some (c.toNat - 87)
  else none

def hexDigit (n : Nat) : Char := if n < 10 then Char.ofNat (48 + n) else Char.ofNat (55 + n)

def ofHex? (digits : List Char) : Option Nat :=
  digits.foldlM (fun n c => (hexValue? c).map (16 * n + ·)) 0

theorem hexValue?_hexDigit (n : Nat) (h : n < 16) : hexValue? (hexDigit n) = some n := by
  have digits : ∀ m : Fin 16, hexValue? (hexDigit m) = some m.val := by decide
  exact digits ⟨n, h⟩

namespace Percent

/-- The marks that stand for themselves beside letters and digits. -/
def plainMarks : List Char := ['-', '_', '.', '!', '~', '*', '\'', '(', ')']

def isPlain (c : Char) : Bool := c.isAlphanum || plainMarks.contains c

def encodeByte (b : UInt8) : List Char :=
  ['%', hexDigit (b.toNat / 16), hexDigit (b.toNat % 16)]

def encodeChar (c : Char) : List Char :=
  if isPlain c then [c] else (String.utf8EncodeChar c).flatMap encodeByte

def encode (s : String) : String := String.ofList (s.toList.flatMap encodeChar)

/-- The bytes of a text in which percent codes stand for single bytes. -/
def bytes : List Char → List UInt8
  | [] => []
  | '%' :: a :: b :: rest =>
    match hexValue? a, hexValue? b with
    | some high, some low => UInt8.ofNat (high * 16 + low) :: bytes rest
    | _, _ => String.utf8EncodeChar '%' ++ bytes (a :: b :: rest)
  | c :: rest => String.utf8EncodeChar c ++ bytes rest

def decode (s : String) : Except Utf8.Fault String :=
  (Utf8.decode (bytes s.toList)).map String.ofList

end Percent

end DeviceGraph.Text
