import DeviceGraph.Number.Reading

/-!
# Dates and times in TOML

A moment is a date, a time of day, or both with an optional offset from
universal time. It is kept in parts and written in one form, whatever letters
stood between the parts: fractions of a second end with their last digit that
is not zero, and have nine digits at most.
-/

set_option autoImplicit false

namespace DeviceGraph.Toml

structure Date where
  year : Nat
  month : Nat
  day : Nat
  deriving DecidableEq, Repr

structure Time where
  hour : Nat
  minute : Nat
  second : Nat
  nanosecond : Nat
  deriving DecidableEq, Repr

inductive Offset
  | universal
  | minutes (n : Int)
  deriving DecidableEq, Repr

inductive Moment
  | date (d : Date)
  | time (t : Time)
  | both (d : Date) (t : Time) (offset : Option Offset)
  deriving DecidableEq, Repr

/-! ## Reading -/

def fixed? (digits low high : Nat) (s : List Char) : Option (Nat × List Char) := do
  let values ← Number.digits? (s.take digits)
  let n := Number.ofDigits values
  if values.length = digits ∧ low ≤ n ∧ n ≤ high then return (n, s.drop digits) else none

def after? (c : Char) : List Char → Option (List Char)
  | d :: rest => if d = c then some rest else none
  | [] => none

def isLeapYear (year : Nat) : Bool := year % 4 = 0 && (year % 100 ≠ 0 || year % 400 = 0)

def daysOfMonth (year month : Nat) : Nat :=
  if month = 2 then if isLeapYear year then 29 else 28
  else if month = 4 ∨ month = 6 ∨ month = 9 ∨ month = 11 then 30
  else 31

def Date.read? (s : List Char) : Option (Date × List Char) := do
  let (year, s) ← fixed? 4 0 9999 s
  let (month, s) ← fixed? 2 1 12 (← after? '-' s)
  let (day, s) ← fixed? 2 1 (daysOfMonth year month) (← after? '-' s)
  return (⟨year, month, day⟩, s)

/-- The nanoseconds that the digits of a fraction write; those after the ninth are dropped. -/
def nanoseconds (digits : List Nat) : Nat :=
  Number.ofDigits ((digits ++ List.replicate 9 0).take 9)

def fraction (s : List Char) : Nat × List Char :=
  match s with
  | '.' :: rest =>
    match Number.digits? (rest.takeWhile Char.isDigit) with
    | some (d :: digits) => (nanoseconds (d :: digits), rest.dropWhile Char.isDigit)
    | _ => (0, s)
  | s => (0, s)

/-- A minute may have a second more. -/
def Time.read? (s : List Char) : Option (Time × List Char) := do
  let (hour, s) ← fixed? 2 0 23 s
  let (minute, s) ← fixed? 2 0 59 (← after? ':' s)
  let (second, s) ← fixed? 2 0 60 (← after? ':' s)
  let (nanosecond, s) := fraction s
  return (⟨hour, minute, second, nanosecond⟩, s)

def Offset.read? (s : List Char) : Option (Offset × List Char) := do
  match s with
  | 'Z' :: rest | 'z' :: rest => return (.universal, rest)
  | sign :: rest =>
    if sign ≠ '+' ∧ sign ≠ '-' then none
    else
      let (hours, rest) ← fixed? 2 0 23 rest
      let (more, rest) ← fixed? 2 0 59 (← after? ':' rest)
      let n : Int := 60 * hours + more
      return (.minutes (if sign = '-' then -n else n), rest)
  | [] => none

def timeOfDate? (s : List Char) : Option (Time × Option Offset × List Char) := do
  match s with
  | 'T' :: rest | 't' :: rest | ' ' :: rest =>
    let (t, rest) ← Time.read? rest
    match Offset.read? rest with
    | some (offset, rest) => return (t, some offset, rest)
    | none => return (t, none, rest)
  | _ => none

def Moment.read? (s : List Char) : Option (Moment × List Char) :=
  match Date.read? s with
  | some (d, rest) =>
    match timeOfDate? rest with
    | some (t, offset, rest) => some (.both d t offset, rest)
    | none => some (.date d, rest)
  | none => (Time.read? s).map fun (t, rest) => (.time t, rest)

/-! ## Writing -/

def padded (width n : Nat) : List Char :=
  let digits := Nat.toDigits 10 n
  List.replicate (width - digits.length) '0' ++ digits

def Date.chars (d : Date) : List Char :=
  padded 4 d.year ++ '-' :: padded 2 d.month ++ '-' :: padded 2 d.day

/-- The fraction of a second with its point, nothing if it is zero. -/
def fractionChars (nanosecond : Nat) : List Char :=
  if nanosecond = 0 then []
  else '.' :: ((padded 9 nanosecond).reverse.dropWhile (· = '0')).reverse

def Time.chars (t : Time) : List Char :=
  padded 2 t.hour ++ ':' :: padded 2 t.minute ++ ':' :: padded 2 t.second ++
    fractionChars t.nanosecond

def Offset.chars : Offset → List Char
  | .universal => ['Z']
  | .minutes n =>
    (if n < 0 then '-' else '+') :: padded 2 (n.natAbs / 60) ++ ':' :: padded 2 (n.natAbs % 60)

def Moment.chars : Moment → List Char
  | .date d => d.chars
  | .time t => t.chars
  | .both d t offset => d.chars ++ 'T' :: t.chars ++ (offset.map Offset.chars).getD []

def Moment.text (m : Moment) : String := String.ofList m.chars

end DeviceGraph.Toml
