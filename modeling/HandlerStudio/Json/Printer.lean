import HandlerStudio.Json.Basic

/-!
# Writing structured data

`Json.compact` writes a value without blanks; `Json.pretty` puts each item of a list or an object
on a line of its own, two blanks deeper than the bracket. Empty lists and objects stay closed. Both
write an object's entries in the order they have.
-/

namespace HandlerStudio

namespace Json

/-- Two hexadecimal digits. -/
def hexPair (n : Nat) : List Char :=
  [Nat.digitChar (n / 16), Nat.digitChar (n % 16)]

/-- How a character is written inside a string. -/
def escapeChar (c : Char) : List Char :=
  if c = '"' then ['\\', '"']
  else if c = '\\' then ['\\', '\\']
  else if c = '\x08' then ['\\', 'b']
  else if c = '\x0c' then ['\\', 'f']
  else if c = '\n' then ['\\', 'n']
  else if c = '\r' then ['\\', 'r']
  else if c = '\t' then ['\\', 't']
  else if c < ' ' then ['\\', 'u', '0', '0'] ++ hexPair c.toNat
  else [c]

def writeString (s : String) : List Char :=
  '"' :: s.toList.flatMap escapeChar ++ ['"']

/-- Everything but lists and objects. -/
def writeScalar : Json → List Char
  | .bool true => ['t', 'r', 'u', 'e']
  | .bool false => ['f', 'a', 'l', 's', 'e']
  | .number n => n.text
  | .string s => writeString s
  | _ => ['n', 'u', 'l', 'l']

mutual

/-- The value without blanks. -/
def compact : Json → List Char
  | .array items => '[' :: compactItems true items
  | .object entries => '\x7b' :: compactEntries true entries
  | .bool b => writeScalar (.bool b)
  | .number n => writeScalar (.number n)
  | .string s => writeScalar (.string s)
  | .null => writeScalar .null
termination_by structural j => j

/-- Items up to the closing bracket, with a comma before each but the first. -/
def compactItems (first : Bool) : List Json → List Char
  | [] => [']']
  | j :: js => (if first then [] else [',']) ++ compact j ++ compactItems false js
termination_by structural js => js

def compactEntries (first : Bool) : List (String × Json) → List Char
  | [] => ['\x7d']
  | (key, j) :: es =>
      (if first then [] else [',']) ++ writeString key ++ ':' :: compact j
        ++ compactEntries false es
termination_by structural es => es

end

/-- A new line, indented by two blanks a level. -/
def newLine (level : Nat) : List Char :=
  '\n' :: List.replicate (2 * level) ' '

mutual

/-- The value over several lines, its closing bracket at the given level. -/
def prettyAt (level : Nat) : Json → List Char
  | .array [] => ['[', ']']
  | .array (j :: js) => '[' :: prettyItems level true (j :: js)
  | .object [] => ['\x7b', '\x7d']
  | .object (e :: es) => '\x7b' :: prettyEntries level true (e :: es)
  | .bool b => writeScalar (.bool b)
  | .number n => writeScalar (.number n)
  | .string s => writeScalar (.string s)
  | .null => writeScalar .null
termination_by structural j => j

def prettyItems (level : Nat) (first : Bool) : List Json → List Char
  | [] => newLine level ++ [']']
  | j :: js =>
      (if first then [] else [',']) ++ newLine (level + 1) ++ prettyAt (level + 1) j
        ++ prettyItems level false js
termination_by structural js => js

def prettyEntries (level : Nat) (first : Bool) : List (String × Json) → List Char
  | [] => newLine level ++ ['\x7d']
  | (key, j) :: es =>
      (if first then [] else [',']) ++ newLine (level + 1) ++ writeString key ++ [':', ' ']
        ++ prettyAt (level + 1) j ++ prettyEntries level false es
termination_by structural es => es

end

def compactText (j : Json) : String := String.ofList (compact j)

def prettyText (j : Json) : String := String.ofList (prettyAt 0 j)

end Json

end HandlerStudio
