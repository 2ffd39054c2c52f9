import HandlerStudio.Text.Characters

/-!
# Quoted texts

A text is written between quotes of one of four kinds: double quotes, where a backslash begins an
escape, and single quotes, where all characters stand for themselves, either of them once or three
times. Only three quotes allow line breaks.

`read` and the readers below it stand after the opening quote, and give the characters after the
closing one. `write` takes the first kind of quotes that needs no escapes.
-/

namespace HandlerStudio.Toml.Quoted

/-! ## Characters -/

/-- A control character other than the tab. -/
def isControl (c : Char) : Bool := (c < ' ' && c != '\t') || c == '\x7f'

/-- What may stand as it is between double quotes. -/
def isPlain (c : Char) : Bool := !isControl c && c != '"' && c != '\\'

/-- What may stand as it is between single quotes. -/
def isLiteral (c : Char) : Bool := !isControl c && c != '\''

def isSpace (c : Char) : Bool := c == ' ' || c == '\t'

/-! ## Reading -/

/-- A character by its number in so many hexadecimal digits. -/
def codePoint (digits : Nat) (cs : List Char) : Option (Char × List Char) := do
  let ds := cs.take digits
  guard (ds.length = digits)
  let n ← ds.foldlM (fun n c => do return n * 16 + (← Text.hexDigit? c)) 0
  guard n.isValidChar
  return (Char.ofNat n, cs.drop digits)

/-- What follows a backslash. -/
def escape : List Char → Option (Char × List Char)
  | [] => none
  | 'u' :: cs => codePoint 4 cs
  | 'U' :: cs => codePoint 8 cs
  | c :: cs =>
      if c = '"' ∨ c = '\\' then some (c, cs)
      else if c = 'b' then some ('\x08', cs)
      else if c = 'f' then some ('\x0c', cs)
      else if c = 'n' then some ('\n', cs)
      else if c = 'r' then some ('\r', cs)
      else if c = 't' then some ('\t', cs)
      else none

/-- Between double quotes. Each step takes one character of the fuel, which is the text ahead at the
start. -/
def basicFrom : (fuel : List Char) → List Char → Option (List Char × List Char)
  | _, [] => none
  | [], _ => none
  | _ :: fuel, c :: cs =>
      if c = '"' then some ([], cs)
      else do
        let (d, cs) ← if c = '\\' then escape cs else if isPlain c then some (c, cs) else none
        let (rest, cs) ← basicFrom fuel cs
        return (d :: rest, cs)

def basic (cs : List Char) : Option (List Char × List Char) := basicFrom cs cs

/-- Between single quotes. -/
def literal : List Char → Option (List Char × List Char)
  | [] => none
  | c :: cs =>
      if c = '\'' then some ([], cs)
      else if isLiteral c then do
        let (rest, cs) ← literal cs
        return (c :: rest, cs)
      else none

/-- A line break: a line feed, which a carriage return may precede. -/
def lineBreak? : List Char → Option (List Char)
  | '\n' :: cs => some cs
  | '\r' :: '\n' :: cs => some cs
  | _ => none

/-- The characters after a first line break, which does not count. -/
def skipFirstBreak (cs : List Char) : List Char := (lineBreak? cs).getD cs

/-- The characters after blanks and line breaks. -/
def skipBlanks : List Char → List Char
  | '\n' :: cs => skipBlanks cs
  | '\r' :: '\n' :: cs => skipBlanks cs
  | c :: cs => if isSpace c then skipBlanks cs else c :: cs
  | [] => []

/-- A backslash at the end of a line hides the line break and all blanks after it. -/
def foldedBreak? (cs : List Char) : Option (List Char) := do
  return skipBlanks (← lineBreak? (cs.dropWhile isSpace))

/-- A run of quotes: either it ends the text, after at most two quotes that belong to it, or it
belongs to the text as a whole. The result says whether the text ends. -/
def closing (quote : Char) (cs : List Char) : Bool × List Char × List Char :=
  let run := cs.takeWhile (· == quote)
  if run.length < 3 then (false, run, cs.drop run.length)
  else
    let inner := min (run.length - 3) 2
    (true, run.take inner, cs.drop (inner + 3))

/-- Between three double quotes. Each step takes one character of the fuel, which is the text ahead
at the start. -/
def multilineBasicFrom : (fuel : List Char) → List Char → Option (List Char × List Char)
  | _, [] => none
  | [], _ => none
  | _ :: fuel, c :: cs =>
      if c = '"' then
        match closing '"' (c :: cs) with
        | (true, quotes, cs) => some (quotes, cs)
        | (false, quotes, cs) => do
            let (rest, cs) ← multilineBasicFrom fuel cs
            return (quotes ++ rest, cs)
      else
        match lineBreak? (c :: cs) with
        | some cs => do
            let (rest, cs) ← multilineBasicFrom fuel cs
            return ('\n' :: rest, cs)
        | none =>
            if c = '\\' then
              match foldedBreak? cs with
              | some cs => multilineBasicFrom fuel cs
              | none => do
                  let (d, cs) ← escape cs
                  let (rest, cs) ← multilineBasicFrom fuel cs
                  return (d :: rest, cs)
            else if isPlain c then do
              let (rest, cs) ← multilineBasicFrom fuel cs
              return (c :: rest, cs)
            else none

def multilineBasic (cs : List Char) : Option (List Char × List Char) :=
  let cs := skipFirstBreak cs
  multilineBasicFrom cs cs

/-- Between three single quotes. Each step takes one character of the fuel, which is the text ahead
at the start. -/
def multilineLiteralFrom : (fuel : List Char) → List Char → Option (List Char × List Char)
  | _, [] => none
  | [], _ => none
  | _ :: fuel, c :: cs =>
      if c = '\'' then
        match closing '\'' (c :: cs) with
        | (true, quotes, cs) => some (quotes, cs)
        | (false, quotes, cs) => do
            let (rest, cs) ← multilineLiteralFrom fuel cs
            return (quotes ++ rest, cs)
      else
        match lineBreak? (c :: cs) with
        | some cs => do
            let (rest, cs) ← multilineLiteralFrom fuel cs
            return ('\n' :: rest, cs)
        | none =>
            if isLiteral c then do
              let (rest, cs) ← multilineLiteralFrom fuel cs
              return (c :: rest, cs)
            else none

def multilineLiteral (cs : List Char) : Option (List Char × List Char) :=
  let cs := skipFirstBreak cs
  multilineLiteralFrom cs cs

/-- A quoted text on one line, from its opening quote. -/
def readLine : List Char → Option (List Char × List Char)
  | '"' :: cs => basic cs
  | '\'' :: cs => literal cs
  | _ => none

/-- A quoted text, from its opening quotes. -/
def read : List Char → Option (List Char × List Char)
  | '"' :: '"' :: '"' :: cs => multilineBasic cs
  | '\'' :: '\'' :: '\'' :: cs => multilineLiteral cs
  | cs => readLine cs

/-! ## Writing -/

/-- What has no written form but an escape. -/
def needsEscape (c : Char) : Bool := isControl c && c != '\n'

/-- Whether a character occurs three times in a row, of which so many were just seen. -/
def threeInARow (quote : Char) (seen : Nat) : List Char → Bool
  | [] => false
  | c :: cs =>
      if c = quote then 2 ≤ seen || threeInARow quote (seen + 1) cs
      else threeInARow quote 0 cs

/-- Two hexadecimal digits. -/
def hexPair (c : Char) : List Char :=
  let digit (n : Nat) : Char := if n < 10 then Char.ofNat (n + 48) else Char.ofNat (n + 55)
  [digit (c.toNat / 16), digit (c.toNat % 16)]

/-- A character that is not a quote as it stands between double quotes. -/
def escaped (c : Char) : List Char :=
  if c = '\\' then ['\\', '\\']
  else if c = '\x08' then ['\\', 'b']
  else if c = '\t' then ['\\', 't']
  else if c = '\x0c' then ['\\', 'f']
  else if c = '\r' then ['\\', 'r']
  else if needsEscape c then ['\\', 'u', '0', '0'] ++ hexPair c
  else [c]

/-- A text on one line between double quotes. -/
def escapedLine (cs : List Char) : List Char :=
  cs.flatMap fun c =>
    if c = '"' then ['\\', '"'] else if c = '\n' then ['\\', 'n'] else escaped c

/-- A text between three double quotes. Of quotes in a row every third is escaped. -/
def escapedLines (seen : Nat) : List Char → List Char
  | [] => []
  | c :: cs =>
      if c = '"' then
        if seen = 2 then '\\' :: '"' :: escapedLines 0 cs else '"' :: escapedLines (seen + 1) cs
      else escaped c ++ escapedLines 0 cs

/-- Put a text between three quotes, on lines of its own if it has several. -/
def multiline (quote : Char) (cs inner : List Char) : List Char :=
  let mark := [quote, quote, quote]
  mark ++ (if cs.contains '\n' then ['\n'] else []) ++ inner ++ mark

/-- A text between the first quotes that fit. Double quotes fit only a text that needs no escapes,
where a tab does not count although it is written as one; if no quotes fit, all is escaped. -/
def write (cs : List Char) : List Char :=
  let bare := !cs.any needsEscape
  let oneLine := !cs.contains '\n'
  if bare && oneLine && !cs.contains '\\' && !cs.contains '"' then
    '"' :: escapedLine cs ++ ['"']
  else if bare && oneLine && !cs.contains '\'' then '\'' :: cs ++ ['\'']
  else if bare && !cs.contains '\\' && !threeInARow '"' 0 cs then
    multiline '"' cs (escapedLines 0 cs)
  else if bare && !threeInARow '\'' 0 cs then multiline '\'' cs cs
  else if oneLine then '"' :: escapedLine cs ++ ['"']
  else multiline '"' cs (escapedLines 0 cs)

end HandlerStudio.Toml.Quoted
