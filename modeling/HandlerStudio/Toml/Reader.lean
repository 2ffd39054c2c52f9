import HandlerStudio.Toml.Literal

/-!
# Reading configuration documents

A document is a sequence of lines: comments, entries, and headers that begin a table. Arrays and
tables may nest up to `nestingLimit`, and so may dotted keys.
-/

namespace HandlerStudio.Toml

/-- How many brackets may be open at once, and how many parts a key may have. -/
def nestingLimit : Nat := 79

namespace Read

/-! ## Blanks and keys -/

def skipSpace (cs : List Char) : List Char := cs.dropWhile Quoted.isSpace

/-- What may stand in a comment. -/
def isCommentChar (c : Char) : Bool := !Quoted.isControl c

/-- The characters after a comment, if there is one. -/
def skipComment : List Char → List Char
  | '#' :: cs => cs.dropWhile isCommentChar
  | cs => cs

/-- The end of a line, or of the text. -/
def lineEnd : List Char → Option (List Char)
  | [] => some []
  | cs => Quoted.lineBreak? cs

/-- What may follow the last thing on a line. -/
def trailing (cs : List Char) : Option (List Char) := lineEnd (skipComment (skipSpace cs))

/-- Blanks, comments and line breaks, as they may stand in an array. Each line takes one character
of the fuel, which is the text ahead at the start. -/
def skipLines : (fuel : List Char) → List Char → Option (List Char)
  | [], cs => some cs
  | _ :: fuel, cs =>
      match skipSpace cs with
      | '#' :: cs => do skipLines fuel (← Quoted.lineBreak? (skipComment ('#' :: cs)))
      | '\n' :: cs => skipLines fuel cs
      | '\r' :: cs => do skipLines fuel (← Quoted.lineBreak? ('\r' :: cs))
      | cs => some cs

def skipAll (cs : List Char) : Option (List Char) := skipLines cs cs

def isKeyChar (c : Char) : Bool := c.isAlphanum || c == '-' || c == '_'

/-- A part of a key. -/
def keyPart : List Char → Option (String × List Char)
  | [] => none
  | c :: cs =>
      if c = '"' ∨ c = '\'' then do
        let (s, cs) ← Quoted.readLine (c :: cs)
        return (String.ofList s, cs)
      else if isKeyChar c then
        some (String.ofList ((c :: cs).takeWhile isKeyChar), (c :: cs).dropWhile isKeyChar)
      else none

/-- The parts of a key, with blanks around each. Each takes one character of the fuel, which is the
text ahead at the start. -/
def keyParts : (fuel : List Char) → List Char → Option (List String × List Char)
  | [], _ => none
  | _ :: fuel, cs => do
      let (part, cs) ← keyPart (skipSpace cs)
      match skipSpace cs with
      | '.' :: cs =>
          let (parts, cs) ← keyParts fuel cs
          return (part :: parts, cs)
      | cs => return ([part], cs)

/-- A key: the path to a table, and the last part. -/
def key (cs : List Char) : Option (List String × String × List Char) := do
  let (parts, cs) ← keyParts cs cs
  guard (parts.length ≤ nestingLimit)
  return (parts.dropLast, ← parts.getLast?, cs)

/-! ## Values -/

/-- Items of an array up to the closing bracket. A comma may follow the last. Each item takes one
character of the fuel, which is the text ahead at the start. -/
def arrayFrom (item : List Char → Option (Value × List Char)) :
    (fuel : List Char) → List Char → Option (List Value × List Char)
  | [], _ => none
  | _ :: fuel, cs => do
      match ← skipAll cs with
      | ']' :: cs => return ([], cs)
      | cs =>
          let (v, cs) ← item cs
          match ← skipAll cs with
          | ',' :: cs =>
              let (vs, cs) ← arrayFrom item fuel cs
              return (v :: vs, cs)
          | ']' :: cs => return ([v], cs)
          | _ => none

/-- Entries of a table on one line, up to the closing brace. Each takes one character of the fuel,
which is the text ahead at the start. -/
def inlineFrom (item : List Char → Option (Value × List Char)) :
    (fuel : List Char) → Draft → List Char → Option (Draft × List Char)
  | [], _, _ => none
  | _ :: fuel, t, cs => do
      let (path, last, cs) ← key cs
      let (v, cs) ← item (skipSpace (← Literal.mark '=' cs))
      let t ← t.addAt path last v
      match skipSpace cs with
      | ',' :: cs => inlineFrom item fuel t cs
      | '\x7d' :: cs => return (t, cs)
      | _ => none

/-- A table on one line, after its opening brace. -/
def inlineTable (item : List Char → Option (Value × List Char)) (cs : List Char) :
    Option (Value × List Char) :=
  match skipSpace cs with
  | '\x7d' :: cs => some (.table [], cs)
  | _ => do
      let (t, cs) ← inlineFrom item cs (.explicit []) cs
      return (.table t.toEntries, cs)

/-- A value that is no array or table. -/
def scalar : List Char → Option (Value × List Char)
  | '"' :: cs => do
      let (s, cs) ← Quoted.read ('"' :: cs)
      return (.text (String.ofList s), cs)
  | '\'' :: cs => do
      let (s, cs) ← Quoted.read ('\'' :: cs)
      return (.text (String.ofList s), cs)
  | 't' :: 'r' :: 'u' :: 'e' :: cs => some (.boolean true, cs)
  | 'f' :: 'a' :: 'l' :: 's' :: 'e' :: cs => some (.boolean false, cs)
  | cs => Literal.read cs

/-- A value, with so many brackets at most. -/
def value : Nat → List Char → Option (Value × List Char)
  | 0, '[' :: _ => none
  | 0, '\x7b' :: _ => none
  | limit + 1, '[' :: cs => do
      let (vs, cs) ← arrayFrom (value limit) cs cs
      return (.array vs, cs)
  | limit + 1, '\x7b' :: cs => inlineTable (value limit) cs
  | _, cs => scalar cs

/-! ## Lines -/

/-- A document as far as it is read: all its tables, and the path to the one that entries go to. -/
structure State where
  root : Draft := .explicit []
  path : List String := []

/-- An entry. -/
def entry (s : State) (cs : List Char) : Option (State × List Char) := do
  let (path, last, cs) ← key cs
  let (v, cs) ← value nestingLimit (skipSpace (← Literal.mark '=' cs))
  let cs ← trailing cs
  let root ← s.root.change false (Draft.addAt path last v) s.path
  return ({ s with root }, cs)

/-- The header of a table, after its opening bracket. -/
def header (s : State) (cs : List Char) : Option (State × List Char) := do
  let (path, last, cs) ← key cs
  let cs ← trailing (← Literal.mark ']' cs)
  let root ← s.root.change false (Draft.beginTable last) path
  return ({ root, path := path ++ [last] }, cs)

/-- The header of one more table of a list, after its opening brackets. -/
def itemHeader (s : State) (cs : List Char) : Option (State × List Char) := do
  let (path, last, cs) ← key cs
  let cs ← trailing (← Literal.mark ']' (← Literal.mark ']' cs))
  let root ← s.root.change false (Draft.beginItem last) path
  return ({ root, path := path ++ [last] }, cs)

/-- One line, which is not empty. -/
def line (s : State) : List Char → Option (State × List Char)
  | '#' :: cs => do return (s, ← lineEnd (skipComment ('#' :: cs)))
  | '\n' :: cs => some (s, cs)
  | '\r' :: cs => do return (s, ← Quoted.lineBreak? ('\r' :: cs))
  | '[' :: '[' :: cs => itemHeader s cs
  | '[' :: cs => header s cs
  | cs => entry s cs

/-- The lines of a document. The fuel bounds their number. -/
def lines : (fuel : Nat) → State → List Char → Option State
  | 0, _, _ => none
  | fuel + 1, s, cs =>
      match skipSpace cs with
      | [] => some s
      | cs => do
          let (s, cs) ← line s cs
          lines fuel s cs

end Read

/-- The characters after a byte order mark, if there is one. -/
def skipByteOrderMark : List Char → List Char
  | '\ufeff' :: cs => cs
  | cs => cs

/-- The entries of a document; none if the text is no document. -/
def parse? (text : String) : Option (List (String × Value)) := do
  let cs := skipByteOrderMark text.toList
  let s ← Read.lines (cs.length + 1) {} cs
  return s.root.toEntries

end HandlerStudio.Toml
