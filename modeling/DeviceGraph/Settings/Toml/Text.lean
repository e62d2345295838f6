import DeviceGraph.Text.Percent

/-!
# Texts, blanks and comments in TOML

A text stands between double quotes, where a backslash begins an escape, or
between single quotes, where every character stands for itself. Between triple
quotes it may have several lines: a line break right behind the opening quotes
is dropped, and a backslash at the end of a line takes the blanks and line
breaks after it away.
-/

set_option autoImplicit false

namespace DeviceGraph.Toml

def unixLines : List Char → List Char
  | '\r' :: '\n' :: rest => '\n' :: unixLines rest
  | c :: rest => c :: unixLines rest
  | [] => []

/-! ## Blanks and comments -/

def isBlank (c : Char) : Bool := c = ' ' || c = '\t'

def skipBlanks (s : List Char) : List Char := s.dropWhile isBlank

def isPlain (c : Char) : Bool := c = '\t' || (0x20 ≤ c.toNat && c.toNat ≠ 0x7f)

/-- Skips blanks, line breaks and comments; none if a comment holds a control character. -/
def skipLines? (inComment : Bool) : List Char → Option (List Char)
  | [] => some []
  | c :: rest =>
    if c = '\n' then skipLines? false rest
    else if inComment then if isPlain c then skipLines? true rest else none
    else if c = '#' then skipLines? true rest
    else if isBlank c then skipLines? false rest
    else some (c :: rest)

/-! ## Escapes -/

def codePoint? (digits : Nat) (s : List Char) : Option (Char × List Char) := do
  let n ← Text.ofHex? (s.take digits)
  if digits ≤ s.length ∧ n.isValidChar then return (Char.ofNat n, s.drop digits) else none

def letterEscape? (c : Char) : Option Char :=
  match c with
  | 'b' => some '\x08'
  | 't' => some '\t'
  | 'n' => some '\n'
  | 'f' => some '\x0c'
  | 'r' => some '\r'
  | '"' => some '"'
  | '\\' => some '\\'
  | _ => none

def escape? (s : List Char) : Option (Char × List Char) :=
  match s with
  | 'u' :: rest => codePoint? 4 rest
  | 'U' :: rest => codePoint? 8 rest
  | c :: rest => (letterEscape? c).map (·, rest)
  | [] => none

/-! ## Quoted texts -/

/-- The rest of a text on one line up to its closing quote, and what follows it. -/
def shortText? (quote : Char) : Nat → List Char → Option (List Char × List Char)
  | 0, _ => none
  | fuel + 1, s => do
    match s with
    | [] => none
    | c :: rest =>
      if c = quote then return ([], rest)
      else
        let (c, rest) ←
          if c = '\\' && quote = '"' then escape? rest
          else if isPlain c then some (c, rest) else none
        let (text, rest) ← shortText? quote fuel rest
        return (c :: text, rest)

def joinedLine? (s : List Char) : Option (List Char) :=
  match skipBlanks s with
  | '\n' :: rest => some (rest.dropWhile fun c => isBlank c || c = '\n')
  | _ => none

/-- The rest of a text of several lines up to its closing quotes, and what follows it. One
or two quotes in front of the closing ones belong to the text. -/
def longText? (quote : Char) : Nat → List Char → Option (List Char × List Char)
  | 0, _ => none
  | fuel + 1, s => do
    let quotes := (s.takeWhile (· = quote)).length
    if 3 ≤ quotes then
      let inside := min (quotes - 3) 2
      return (List.replicate inside quote, s.drop (inside + 3))
    else
      match s with
      | [] => none
      | c :: rest =>
        if c = '\\' && quote = '"' then
          match joinedLine? rest with
          | some rest => longText? quote fuel rest
          | none =>
            let (c, rest) ← escape? rest
            let (text, rest) ← longText? quote fuel rest
            return (c :: text, rest)
        else if c = '\n' || isPlain c then
          let (text, rest) ← longText? quote fuel rest
          return (c :: text, rest)
        else none

/-- A text behind its opening quote, of several lines if there are three, and what follows. -/
def text? (quote : Char) (s : List Char) : Option (String × List Char) :=
  let read : Option (List Char × List Char) := match s with
    | a :: b :: rest =>
      if a = quote ∧ b = quote then
        longText? quote (rest.length + 1) (if rest.head? = some '\n' then rest.drop 1 else rest)
      else shortText? quote (s.length + 1) s
    | s => shortText? quote (s.length + 1) s
  read.map fun (text, rest) => (String.ofList text, rest)

/-! ## Keys -/

def isKeyChar (c : Char) : Bool := c.isAlphanum || c = '_' || c = '-'

def key? (s : List Char) : Option (String × List Char) :=
  let quoted (quote : Char) (rest : List Char) : Option (String × List Char) :=
    (shortText? quote (rest.length + 1) rest).map fun (key, rest) => (String.ofList key, rest)
  match s with
  | '"' :: rest => quoted '"' rest
  | '\'' :: rest => quoted '\'' rest
  | s =>
    let key := s.takeWhile isKeyChar
    if key = [] then none else some (String.ofList key, s.dropWhile isKeyChar)

/-- Keys with points between them, and what follows them; `fuel` bounds their number. -/
def keys? : Nat → List Char → Option (List String × List Char)
  | 0, _ => none
  | fuel + 1, s => do
    let (key, rest) ← key? (skipBlanks s)
    match skipBlanks rest with
    | '.' :: rest =>
      let (keys, rest) ← keys? fuel rest
      return (key :: keys, rest)
    | rest => return ([key], rest)

def keyLimit : Nat := 79

def dottedKey? (s : List Char) : Option (List String × List Char) := keys? keyLimit s

end DeviceGraph.Toml
