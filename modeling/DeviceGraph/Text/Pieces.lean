/-!
# Cutting a text into pieces

A text is cut at every occurrence of a mark, or once at the first one, and
pieces are joined with a separator between neighbours. All cutting works on
lists of characters, one character at a time.
-/

set_option autoImplicit false

namespace DeviceGraph.Text

def pushFront (c : Char) : List (List Char) → List (List Char)
  | [] => [[c]]
  | piece :: rest => (c :: piece) :: rest

/-- The pieces between the occurrences of a mark. There is always at least one
piece, and an empty piece stands between neighbouring marks. -/
def pieces (mark : Char) : List Char → List (List Char)
  | [] => [[]]
  | c :: rest => if c = mark then [] :: pieces mark rest else pushFront c (pieces mark rest)

def split (mark : Char) (s : String) : List String :=
  (pieces mark s.toList).map String.ofList

/-- What stands before the first mark, and what follows it if there is one. -/
def cutFirst (mark : Char) : List Char → List Char × Option (List Char)
  | [] => ([], none)
  | c :: rest =>
    if c = mark then ([], some rest)
    else (c :: (cutFirst mark rest).1, (cutFirst mark rest).2)

def join (separator : String) : List String → String
  | [] => ""
  | [text] => text
  | text :: next :: rest => text ++ separator ++ join separator (next :: rest)

def dropReturn : List Char → List Char
  | [] => []
  | ['\r'] => []
  | c :: rest => c :: dropReturn rest

def firstLine (s : String) : String :=
  String.ofList (dropReturn (s.toList.takeWhile (· ≠ '\n')))

theorem pieces_ne_nil (mark : Char) (s : List Char) : pieces mark s ≠ [] := by
  cases s with
  | nil => simp [pieces]
  | cons c rest =>
    by_cases h : c = mark
    · simp [pieces, h]
    · cases hp : pieces mark rest <;> simp [pieces, h, hp, pushFront]

end DeviceGraph.Text
