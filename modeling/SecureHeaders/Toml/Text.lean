import SecureHeaders.Text.Basic
/-!
The characters of TOML documents, with blanks, comments and line ends; strings and keys. Every
reader takes what it reads from the start of the input and leaves the rest; where the input does not
fit there is no result. A basic string knows escapes, a literal string does not; both may span lines
between three quotes, where up to two quotes may stand inside and before the end.
-/

namespace SecureHeaders.Toml

abbrev Input := List Char

def apostrophe : Char := Char.ofNat 0x27

def isSpace (c : Char) : Bool := c = ' ' || c = '\t'

/-- Characters that comments and single-line strings may hold: all but controls, the tab
excepted. -/
def isPlain (c : Char) : Bool := c = '\t' || (0x20 ≤ c.toNat && c.toNat ≠ 0x7F)

def skipSpace (s : Input) : Input := s.dropWhile isSpace

def char (c : Char) : Input → Option Input
  | d :: s => if d = c then some s else none
  | [] => none

def exactly : List Char → Input → Option Input
  | [], s => some s
  | c :: cs, d :: s => if c = d then exactly cs s else none
  | _ :: _, [] => none

def newline? : Input → Option Input
  | '\n' :: s => some s
  | '\r' :: '\n' :: s => some s
  | _ => none

/-- What is left after a comment, which ends before the first character that it cannot hold. -/
def skipComment : Input → Input
  | '#' :: s => s.dropWhile isPlain
  | s => s

/-- Blanks and a comment up to the end of the line or of the document. -/
def lineEnd (s : Input) : Option Input :=
  match skipComment (skipSpace s) with
  | [] => some []
  | s => newline? s

def skipBlank : Input → Input
  | '\r' :: '\n' :: s => skipBlank s
  | c :: s => if isSpace c || c = '\n' then skipBlank s else c :: s
  | [] => []

/-- Skips blanks, comments and line ends; the input may start inside a comment. -/
def skipTrivia (inComment : Bool) : Input → Input
  | '\r' :: '\n' :: s => skipTrivia false s
  | c :: s =>
    if c = '\n' then skipTrivia false s
    else if inComment then if isPlain c then skipTrivia true s else c :: s
    else if isSpace c then skipTrivia false s
    else if c = '#' then skipTrivia true s
    else c :: s
  | [] => []

def skipLines (s : Input) : Input := skipTrivia false s

def hexNumber : Nat → Nat → Input → Option (Nat × Input)
  | 0, n, s => some (n, s)
  | _ + 1, _, [] => none
  | count + 1, n, c :: s =>
    match Text.hexDigit? c with
    | some d => hexNumber count (n * 16 + d) s
    | none => none

def codePoint (count : Nat) (s : Input) : Option (Char × Input) := do
  let (n, s) ← hexNumber count 0 s
  let c ← Text.scalar? n
  some (c, s)

def escape : Input → Option (Char × Input)
  | 'b' :: s => some ('\x08', s)
  | 't' :: s => some ('\t', s)
  | 'n' :: s => some ('\n', s)
  | 'f' :: s => some ('\x0c', s)
  | 'r' :: s => some ('\r', s)
  | '"' :: s => some ('"', s)
  | '\\' :: s => some ('\\', s)
  | 'u' :: s => codePoint 4 s
  | 'U' :: s => codePoint 8 s
  | _ => none

/-- A basic string after its quote. The characters read so far are kept in reverse. -/
def basicTail : Nat → List Char → Input → Option (String × Input)
  | 0, _, _ => none
  | _ + 1, _, [] => none
  | fuel + 1, seen, c :: s =>
    if c = '"' then some (String.ofList seen.reverse, s)
    else if c = '\\' then
      match escape s with
      | some (c, s) => basicTail fuel (c :: seen) s
      | none => none
    else if isPlain c then basicTail fuel (c :: seen) s
    else none

def basicString (s : Input) : Option (String × Input) := do
  let s ← char '"' s
  basicTail (s.length + 1) [] s

def literalString (s : Input) : Option (String × Input) := do
  let s ← char apostrophe s
  let inside c := isPlain c && c ≠ apostrophe
  let rest ← char apostrophe (s.dropWhile inside)
  some (String.ofList (s.takeWhile inside), rest)

def quoteRun (q : Char) (s : Input) : Nat := (s.takeWhile fun c => c = q).length

/-- What is left after a line end behind a backslash: blanks, a line end, then all blanks and line
ends. -/
def foldedLine? (s : Input) : Option Input := (newline? (skipSpace s)).map skipBlank

/-- A string over several lines, after its three quotes. Line ends are read as line feeds. -/
def multilineTail (q : Char) (escapes : Bool) :
    Nat → List Char → Input → Option (String × Input)
  | 0, _, _ => none
  | _ + 1, _, [] => none
  | fuel + 1, seen, c :: s =>
    if c = q then
      let run := quoteRun q (c :: s)
      if 3 ≤ run then
        let inside := min (run - 3) 2
        some (String.ofList (List.replicate inside q ++ seen).reverse, s.drop (inside + 2))
      else multilineTail q escapes fuel (List.replicate run q ++ seen) (s.drop (run - 1))
    else if c = '\\' && escapes then
      match foldedLine? s with
      | some s => multilineTail q escapes fuel seen s
      | none =>
        match escape s with
        | some (c, s) => multilineTail q escapes fuel (c :: seen) s
        | none => none
    else if isPlain c then multilineTail q escapes fuel (c :: seen) s
    else
      match newline? (c :: s) with
      | some s => multilineTail q escapes fuel ('\n' :: seen) s
      | none => none

/-- A string over several lines; a line end right after the opening quotes is left out. -/
def multilineString (q : Char) (escapes : Bool) (s : Input) : Option (String × Input) := do
  let s ← exactly [q, q, q] s
  let s := (newline? s).getD s
  multilineTail q escapes (s.length + 1) [] s

def string (s : Input) : Option (String × Input) :=
  if (exactly ['"', '"', '"'] s).isSome then multilineString '"' true s
  else if (exactly [apostrophe, apostrophe, apostrophe] s).isSome then
    multilineString apostrophe false s
  else if (char '"' s).isSome then basicString s
  else literalString s

def isBareKeyChar (c : Char) : Bool := c.isAlphanum || c = '_' || c = '-'

def simpleKey (s : Input) : Option (String × Input) :=
  match s with
  | '"' :: _ => basicString s
  | _ =>
    if (char apostrophe s).isSome then literalString s
    else
      match s.takeWhile isBareKeyChar with
      | [] => none
      | cs => some (String.ofList cs, s.dropWhile isBareKeyChar)

/-- A dotted key has fewer parts than this, and values stand less deep in each other. -/
def nestingBound : Nat := 80

/-- The parts of a dotted key, at most `bound` of them, with blanks around each. -/
def keyParts : Nat → Input → Option (List String × Input)
  | 0, _ => none
  | bound + 1, s => do
    let (k, s) ← simpleKey (skipSpace s)
    match skipSpace s with
    | '.' :: s =>
      let (ks, s) ← keyParts bound s
      some (k :: ks, s)
    | s => some ([k], s)

structure KeyPath where
  tables : List String
  key : String

def keyPath (s : Input) : Option (KeyPath × Input) := do
  let (parts, s) ← keyParts (nestingBound - 1) s
  let key ← parts.getLast?
  some (⟨parts.dropLast, key⟩, s)

end SecureHeaders.Toml
