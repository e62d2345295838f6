import DeviceGraph.Json.Basic
import DeviceGraph.Json.Fault
import DeviceGraph.Number.Reading
import DeviceGraph.Text.Percent

/-!
# Words, numerals and strings in JSON text

A whole number that fits 64 bits is kept; any other number becomes a double,
computed from the leading digits that fit 64 bits, which are rounded to a double
and then scaled by a power of ten. Beside the readers stand functions that skip
a numeral or a string: they check its form but not what it means, so that a
number may be out of range and surrogates may stand alone.
-/

set_option autoImplicit false

namespace DeviceGraph.Json

def isBlank (c : Char) : Bool := c = ' ' || c = '\n' || c = '\t' || c = '\r'

def skipBlanks (s : List Char) : List Char := s.dropWhile isBlank

def dropWord : List Char → List Char → Except Fault (List Char)
  | [], s => .ok s
  | _ :: _, [] => Problem.endInValue.here []
  | c :: word, d :: s => if c = d then dropWord word s else Problem.noWord.next (d :: s)

/-! ## Numerals -/

def cutDigits (s : List Char) : List Nat × List Char :=
  ((s.takeWhile Char.isDigit).map (fun c => c.toNat - 48), s.dropWhile Char.isDigit)

/-- Appends digits to a number while it fits 64 bits, and returns the digits left over. -/
def accumulate : Nat → List Nat → Nat × List Nat
  | n, [] => (n, [])
  | n, d :: rest =>
    if 10 * n + d < Number.word64 then accumulate (10 * n + d) rest else (n, d :: rest)

/-- Scales a double by a power of ten, one rounding for each factor. -/
def scale : Nat → Double → Int → Option Double
  | 0, _, _ => none
  | steps + 1, x, exponent =>
    if exponent.natAbs ≤ 308 then do
      let power ← Double.ofQuotient? (Nat.pow 10 exponent.natAbs) 1
      if 0 ≤ exponent then x.mul? power else x.div? power
    else if x.isZero then some x
    else if 0 ≤ exponent then none
    else do
      let power ← Double.ofQuotient? (Nat.pow 10 308) 1
      scale steps (← x.div? power) (exponent + 308)

def scaledDouble (negative : Bool) (significand : Nat) (exponent : Int) (rest : List Char) :
    Except Fault (Numeral × List Char) :=
  match (Double.ofQuotient? significand 1).bind (scale 5 · exponent) with
  | some x => .ok (.double (x.withSign negative), rest)
  | none => Problem.outOfRange.here rest

/-- The digits of an exponent after `n`. One that needs more than 31 bits is refused, but
none is returned for it if the numeral is `zero` anyway. -/
def readPower (zero : Bool) (n : Nat) : List Char → Except Fault (Option Nat × List Char)
  | [] => .ok (some n, [])
  | c :: rest =>
    if !c.isDigit then .ok (some n, c :: rest)
    else
      let m := 10 * n + (c.toNat - 48)
      if m < Number.half32 then readPower zero m rest
      else if zero then .ok (none, rest.dropWhile Char.isDigit)
      else Problem.outOfRange.here rest

def readScaled (negative : Bool) (significand : Nat) (exponent : Int) (s : List Char) :
    Except Fault (Numeral × List Char) := do
  match s with
  | 'e' :: rest | 'E' :: rest =>
    let (minus, rest) := Number.cutSign rest
    match rest with
    | [] => Problem.endInValue.here []
    | c :: _ =>
      if !c.isDigit then Problem.badNumeral.next rest
      else
        match ← readPower (minus || significand = 0) 0 rest with
        | (some power, rest) =>
          scaledDouble negative significand (if minus then exponent - power else exponent + power)
            rest
        | (none, rest) => scaledDouble negative 0 0 rest
  | rest => scaledDouble negative significand exponent rest

/-- A whole number without fraction and exponent; minus zero is a double. -/
def wholeOrDouble (negative : Bool) (significand : Nat) (rest : List Char) :
    Except Fault (Numeral × List Char) :=
  if !negative then .ok (.whole significand, rest)
  else if 0 < significand ∧ significand ≤ Number.half64 then .ok (.whole (-significand), rest)
  else scaledDouble true significand 0 rest

def readUnsigned (negative : Bool) (s : List Char) : Except Fault (Numeral × List Char) :=
  match s, cutDigits s with
  | [], _ => Problem.endInValue.here []
  | _, ([], _) => Problem.badNumeral.next s
  | _, (0 :: _ :: _, _) => Problem.badNumeral.next (s.drop 1)
  | _, (digits, rest) =>
    let (significand, left) := accumulate 0 digits
    match rest with
    | '.' :: rest =>
      match rest, cutDigits rest with
      | [], _ => Problem.endInValue.here []
      | _, ([], _) => Problem.badNumeral.next rest
      | _, (fraction, rest) =>
        let (significand, unused) := accumulate significand fraction
        readScaled negative significand
          ((left.length : Int) - ((fraction.length - unused.length : Nat) : Int)) rest
    | 'e' :: _ | 'E' :: _ => readScaled negative significand left.length rest
    | rest =>
      if left = [] then wholeOrDouble negative significand rest
      else scaledDouble negative significand left.length rest

def readNumeral : List Char → Except Fault (Numeral × List Char)
  | '-' :: rest => readUnsigned true rest
  | rest => readUnsigned false rest

def skipDigits (s : List Char) : Except Fault (List Char) :=
  match cutDigits s with
  | ([], _) => Problem.badNumeral.next s
  | (_, rest) => .ok rest

def skipExponent : List Char → Except Fault (List Char)
  | 'e' :: rest | 'E' :: rest => skipDigits (Number.cutSign rest).2
  | rest => .ok rest

def skipNumeral (s : List Char) : Except Fault (List Char) := do
  let s := if s.head? = some '-' then s.drop 1 else s
  match cutDigits s with
  | ([], _) => Problem.badNumeral.next s
  | (0 :: _ :: _, _) => Problem.badNumeral.next (s.drop 1)
  | (_, '.' :: rest) => skipExponent (← skipDigits rest)
  | (_, rest) => skipExponent rest

/-! ## Strings -/

def simpleEscape? : Char → Option Char
  | '"' => some '"'
  | '\\' => some '\\'
  | '/' => some '/'
  | 'b' => some '\x08'
  | 'f' => some '\x0c'
  | 'n' => some '\n'
  | 'r' => some '\r'
  | 't' => some '\t'
  | _ => none

/-- The number that four hexadecimal digits write; four bytes are taken for them. -/
def readHex (s : List Char) : Except Fault (Nat × List Char) :=
  match s with
  | a :: b :: c :: d :: rest =>
    match Text.ofHex? [a, b, c, d] with
    | some n => .ok (n, rest)
    | none => .error ⟨.badEscape, s, 4⟩
  | s => if 4 ≤ byteCount s then .error ⟨.badEscape, s, 4⟩ else Problem.endInString.here []

/-- The character of one code unit in hexadecimal digits, or of a pair of surrogates. -/
def readUnits (s : List Char) : Except Fault (Char × List Char) := do
  let (first, rest) ← readHex s
  if first < 0xD800 ∨ 0xE000 ≤ first then return (Char.ofNat first, rest)
  else if 0xDC00 ≤ first then Problem.loneSurrogate.here rest
  else
    match rest with
    | [] | ['\\'] => Problem.endInString.here []
    | '\\' :: 'u' :: rest =>
      let (second, rest) ← readHex rest
      if 0xDC00 ≤ second ∧ second < 0xE000 then
        return (Char.ofNat (0x10000 + (first - 0xD800) * 1024 + (second - 0xDC00)), rest)
      else Problem.loneSurrogate.here rest
    | '\\' :: rest | rest => Problem.halfSurrogate.next rest

def readEscape : List Char → Except Fault (Char × List Char)
  | [] => Problem.endInString.here []
  | 'u' :: rest => readUnits rest
  | c :: rest =>
    match simpleEscape? c with
    | some d => .ok (d, rest)
    | none => Problem.badEscape.next (c :: rest)

/-- Reads the characters of a string up to its closing quote; `fuel` bounds their number. -/
def readString : Nat → List Char → Except Fault (List Char × List Char)
  | 0, s => Problem.endInString.here s
  | _, [] => Problem.endInString.here []
  | _, '"' :: rest => .ok ([], rest)
  | fuel + 1, '\\' :: rest => do
    let (c, rest) ← readEscape rest
    let (text, rest) ← readString fuel rest
    return (c :: text, rest)
  | fuel + 1, c :: rest =>
    if c.toNat < 32 then Problem.controlCharacter.here rest
    else do
      let (text, rest) ← readString fuel rest
      return (c :: text, rest)

def skipEscape : List Char → Except Fault (List Char)
  | [] => Problem.endInString.here []
  | 'u' :: rest => (readHex rest).map (·.2)
  | c :: rest =>
    if (simpleEscape? c).isSome then .ok rest else Problem.badEscape.next (c :: rest)

def skipString : Nat → List Char → Except Fault (List Char)
  | 0, s => Problem.endInString.here s
  | _, [] => Problem.endInString.here []
  | _, '"' :: rest => .ok rest
  | fuel + 1, '\\' :: rest => do skipString fuel (← skipEscape rest)
  | fuel + 1, c :: rest =>
    if c.toNat < 32 then Problem.controlCharacter.here (c :: rest) else skipString fuel rest

end DeviceGraph.Json
