import HandlerStudio.Json.Basic
import HandlerStudio.Json.Fault
import HandlerStudio.Text.Characters

/-!
# Reading structured data

A reader takes a limit on how many more brackets may be opened and the characters ahead, and gives
a result with the characters that follow it, or the first fault from the left. `Read.value` reads
any value; `members` and `items` are its loops, which the readers of records share. `Json.parse`
reads a whole text.
-/

namespace HandlerStudio

namespace Json

/-- How many brackets may be open at once. -/
def nestingLimit : Nat := 127

/-- A reader is given how many brackets may still be opened and the characters ahead; it gives a
result and the characters after it. -/
abbrev Reader (α : Type) := Nat → List Char → Except Fault (α × List Char)

namespace Read

def isSpace (c : Char) : Bool :=
  c == ' ' || c == '\n' || c == '\t' || c == '\r'

/-- The characters from the first that is not a space. -/
def skipSpace (cs : List Char) : List Char :=
  cs.dropWhile isSpace

/-- The rest of a word whose first letter is known. -/
def word : List Char → List Char → Except Fault (List Char)
  | [], cs => .ok cs
  | _ :: _, [] => .error .truncated
  | w :: ws, c :: cs => if w = c then word ws cs else .error .malformed

/-! ## Numbers -/

def digit? (c : Char) : Option Nat :=
  if c.isDigit then some (c.toNat - '0'.toNat) else none

/-- One more digit, as long as the number fits 64 bits. -/
def push? (significand digit : Nat) : Option Nat :=
  if significand * 10 + digit < unsignedLimit then some (significand * 10 + digit) else none

def skipDigits (cs : List Char) : List Char :=
  cs.dropWhile Char.isDigit

/-- A significand and a power of ten, read so far. -/
structure Decimal where
  negative : Bool
  significand : Nat
  exponent : Int

def Decimal.finish (d : Decimal) (cs : List Char) : Except Fault (Number × List Char) :=
  (Double.scaled? d.negative d.significand d.exponent).elim (.error .malformed)
    fun x => .ok (.float x, cs)

/-- The greatest exponent that is counted. -/
def exponentLimit : Nat := 2147483647

/-- Digits of an exponent; none if it passes the limit. -/
def exponentDigits : Nat → List Char → Option Nat × List Char
  | e, [] => (some e, [])
  | e, c :: cs =>
      match digit? c with
      | none => (some e, c :: cs)
      | some n => if e * 10 + n ≤ exponentLimit then exponentDigits (e * 10 + n) cs
          else (none, skipDigits cs)

/-- What follows the mark of an exponent. -/
def Decimal.exponentPart (d : Decimal) (cs : List Char) : Except Fault (Number × List Char) :=
  let (down, cs) :=
    match cs with
    | '+' :: rest => (false, rest)
    | '-' :: rest => (true, rest)
    | _ => (false, cs)
  match cs with
  | [] => .error .truncated
  | c :: rest =>
      match digit? c with
      | none => .error .malformed
      | some n =>
          match exponentDigits n rest with
          | (some e, rest) =>
              ({ d with exponent := if down then d.exponent - e else d.exponent + e } :
                Decimal).finish rest
          | (none, rest) =>
              if d.significand ≠ 0 ∧ !down then .error .malformed
              else .ok (.float (Double.zero d.negative), rest)

/-- What follows the digits of a decimal. -/
def Decimal.afterDigits (d : Decimal) : List Char → Except Fault (Number × List Char)
  | 'e' :: cs => d.exponentPart cs
  | 'E' :: cs => d.exponentPart cs
  | cs => d.finish cs

/-- Digits after the point, up to the first that no longer fits; the rest are passed over. -/
def Decimal.fractionDigits (d : Decimal) : List Char → Decimal × List Char
  | [] => (d, [])
  | c :: cs =>
      match digit? c with
      | none => (d, c :: cs)
      | some n =>
          match push? d.significand n with
          | some s => ({ d with significand := s, exponent := d.exponent - 1 } :
              Decimal).fractionDigits cs
          | none => (d, skipDigits cs)

/-- What follows the point: at least one digit. -/
def Decimal.fraction (d : Decimal) (cs : List Char) : Except Fault (Number × List Char) :=
  match cs with
  | [] => .error .truncated
  | c :: _ =>
      if c.isDigit then
        let (d, rest) := d.fractionDigits cs
        d.afterDigits rest
      else .error .malformed

/-- Digits before the point that no longer fit. Each counts as a power of ten. -/
def Decimal.longDigits (d : Decimal) : List Char → Except Fault (Number × List Char)
  | [] => d.finish []
  | '.' :: cs => d.fraction cs
  | 'e' :: cs => d.exponentPart cs
  | 'E' :: cs => d.exponentPart cs
  | c :: cs =>
      if c.isDigit then ({ d with exponent := d.exponent + 1 } : Decimal).longDigits cs
      else d.finish (c :: cs)

/-- A whole number, or a double if it is negative and does not fit. Minus zero is a double. -/
def wholeNumber (negative : Bool) (n : Nat) (cs : List Char) : Except Fault (Number × List Char) :=
  if !negative then .ok (.int n, cs)
  else if 0 < n ∧ n ≤ signedLimit then .ok (.int (-(n : Int)), cs)
  else (⟨true, n, 0⟩ : Decimal).finish cs

/-- What follows the digits of a whole number. -/
def afterWhole (negative : Bool) (n : Nat) : List Char → Except Fault (Number × List Char)
  | '.' :: cs => (⟨negative, n, 0⟩ : Decimal).fraction cs
  | 'e' :: cs => (⟨negative, n, 0⟩ : Decimal).exponentPart cs
  | 'E' :: cs => (⟨negative, n, 0⟩ : Decimal).exponentPart cs
  | cs => wholeNumber negative n cs

/-- Digits before the point. -/
def wholeDigits (negative : Bool) (n : Nat) : List Char → Except Fault (Number × List Char)
  | [] => afterWhole negative n []
  | c :: cs =>
      match digit? c with
      | none => afterWhole negative n (c :: cs)
      | some d =>
          match push? n d with
          | some n => wholeDigits negative n cs
          | none => (⟨negative, n, 0⟩ : Decimal).longDigits (c :: cs)

/-- A number without its sign. A zero is not followed by a digit. -/
def unsigned (negative : Bool) : List Char → Except Fault (Number × List Char)
  | [] => .error .truncated
  | '0' :: cs =>
      match cs with
      | c :: _ => if c.isDigit then .error .malformed else afterWhole negative 0 cs
      | [] => afterWhole negative 0 cs
  | c :: cs =>
      match digit? c with
      | some n => wholeDigits negative n cs
      | none => .error .malformed

/-- A number that starts with a minus sign or a digit. -/
def number : List Char → Except Fault (Number × List Char)
  | '-' :: cs => unsigned true cs
  | cs => unsigned false cs

/-- Whether a number starts here. -/
def startsNumber (c : Char) : Bool :=
  c == '-' || c.isDigit

/-! ## Strings -/

/-- The fault of four hexadecimal digits that are not there: the text ends too early if fewer than
four bytes are left. -/
def hexFault (cs : List Char) : Fault :=
  if (String.ofList (cs.take 4)).utf8ByteSize < 4 then .truncated else .malformed

/-- Four hexadecimal digits. -/
def hexQuad : List Char → Except Fault (Nat × List Char)
  | a :: b :: c :: d :: cs =>
      match Text.hexDigit? a, Text.hexDigit? b, Text.hexDigit? c, Text.hexDigit? d with
      | some a, some b, some c, some d => .ok (((a * 16 + b) * 16 + c) * 16 + d, cs)
      | _, _, _, _ => .error .malformed
  | cs => .error (hexFault cs)

def isLeadingSurrogate (n : Nat) : Bool := 0xD800 ≤ n && n ≤ 0xDBFF

def isTrailingSurrogate (n : Nat) : Bool := 0xDC00 ≤ n && n ≤ 0xDFFF

/-- A code point by its number, which may take two of them, a leading and a trailing surrogate. -/
def unicodeEscape (cs : List Char) : Except Fault (Char × List Char) := do
  let (n, cs) ← hexQuad cs
  if isTrailingSurrogate n then throw .malformed
  if !isLeadingSurrogate n then return (Char.ofNat n, cs)
  match cs with
  | [] => throw .truncated
  | '\\' :: [] => throw .truncated
  | '\\' :: 'u' :: cs =>
      let (m, cs) ← hexQuad cs
      if isTrailingSurrogate m then
        return (Char.ofNat (0x10000 + (n - 0xD800) * 0x400 + (m - 0xDC00)), cs)
      throw .malformed
  | _ => throw .malformed

/-- What follows a backslash. -/
def escape : List Char → Except Fault (Char × List Char)
  | [] => .error .truncated
  | 'u' :: cs => unicodeEscape cs
  | c :: cs =>
      if c = '"' ∨ c = '\\' ∨ c = '/' then .ok (c, cs)
      else if c = 'b' then .ok ('\x08', cs)
      else if c = 'f' then .ok ('\x0c', cs)
      else if c = 'n' then .ok ('\n', cs)
      else if c = 'r' then .ok ('\r', cs)
      else if c = 't' then .ok ('\t', cs)
      else .error .malformed

/-- Characters up to the closing quote. Each step takes one character of the fuel, which is the text
ahead at the start. -/
def stringChars : (fuel : List Char) → List Char → Except Fault (List Char × List Char)
  | _, [] => .error .truncated
  | [], _ => .error .truncated
  | _ :: fuel, c :: cs =>
      if c = '"' then .ok ([], cs)
      else if c = '\\' then do
        let (d, cs) ← escape cs
        let (rest, cs) ← stringChars fuel cs
        return (d :: rest, cs)
      else if c < ' ' then .error .malformed
      else do
        let (rest, cs) ← stringChars fuel cs
        return (c :: rest, cs)

/-- A string after its opening quote. -/
def string (cs : List Char) : Except Fault (String × List Char) := do
  let (chars, rest) ← stringChars cs cs
  return (String.ofList chars, rest)

/-! ## Lists and objects -/

/-- Inside brackets: the characters after the closing bracket, or those of another item. -/
inductive Ahead where
  | closed (rest : List Char)
  | another (rest : List Char)

/-- Look for the next item of a list. -/
def nextItem (first : Bool) (cs : List Char) : Except Fault Ahead :=
  match skipSpace cs with
  | [] => .error .truncated
  | ']' :: cs => .ok (.closed cs)
  | c :: cs =>
      if first then .ok (.another (c :: cs))
      else if c = ',' then
        match skipSpace cs with
        | [] => .error .truncated
        | ']' :: _ => .error .malformed
        | cs => .ok (.another cs)
      else .error .malformed

/-- Items up to the closing bracket, after the opening one. Each takes one character of the fuel,
which is the text ahead at the start. -/
def itemsFrom (item : List Char → Except Fault (α × List Char)) :
    (fuel : List Char) → (first : Bool) → List Char → Except Fault (List α × List Char)
  | [], _, _ => .error .truncated
  | _ :: fuel, first, cs => do
      match ← nextItem first cs with
      | .closed cs => return ([], cs)
      | .another cs =>
          let (a, cs) ← item cs
          let (as, cs) ← itemsFrom item fuel false cs
          return (a :: as, cs)

/-- The items of a list, after its opening bracket. -/
def items (item : List Char → Except Fault (α × List Char)) (cs : List Char) :
    Except Fault (List α × List Char) :=
  itemsFrom item cs true cs

/-- Look for the next key of an object; it starts after its opening quote. -/
def nextKey (first : Bool) (cs : List Char) : Except Fault Ahead :=
  match skipSpace cs with
  | [] => .error .truncated
  | '\x7d' :: cs => .ok (.closed cs)
  | c :: cs =>
      if first then
        if c = '"' then .ok (.another cs) else .error .malformed
      else if c = ',' then
        match skipSpace cs with
        | [] => .error .truncated
        | '"' :: cs => .ok (.another cs)
        | _ => .error .malformed
      else .error .malformed

/-- The colon between a key and its value. -/
def colon (cs : List Char) : Except Fault (List Char) :=
  match skipSpace cs with
  | [] => .error .truncated
  | ':' :: cs => .ok cs
  | _ => .error .malformed

/-- Fold the entries of an object up to the closing brace, after the opening one. A step is given
the key and stands before its colon. Each entry takes one character of the fuel, which is the text
ahead at the start. -/
def membersFrom (step : α → String → List Char → Except Fault (α × List Char)) :
    (fuel : List Char) → (first : Bool) → α → List Char → Except Fault (α × List Char)
  | [], _, _, _ => .error .truncated
  | _ :: fuel, first, acc, cs => do
      match ← nextKey first cs with
      | .closed cs => return (acc, cs)
      | .another cs =>
          let (key, cs) ← string cs
          let (acc, cs) ← step acc key cs
          membersFrom step fuel false acc cs

/-- The entries of an object, after its opening brace. -/
def members (step : α → String → List Char → Except Fault (α × List Char)) (start : α)
    (cs : List Char) : Except Fault (α × List Char) :=
  membersFrom step cs true start cs

/-! ## Values -/

/-- A value, given readers of lists and of objects that start after the opening bracket. -/
def valueWith (list object : List Char → Except Fault (Json × List Char)) (cs : List Char) :
    Except Fault (Json × List Char) :=
  match skipSpace cs with
  | [] => .error .truncated
  | 'n' :: cs => do return (.null, ← word ['u', 'l', 'l'] cs)
  | 't' :: cs => do return (.bool true, ← word ['r', 'u', 'e'] cs)
  | 'f' :: cs => do return (.bool false, ← word ['a', 'l', 's', 'e'] cs)
  | '"' :: cs => do
      let (s, cs) ← string cs
      return (.string s, cs)
  | '[' :: cs => list cs
  | '\x7b' :: cs => object cs
  | c :: cs =>
      if startsNumber c then do
        let (n, cs) ← number (c :: cs)
        return (.number n, cs)
      else .error .malformed

/-- Any value. A bracket beyond the limit is a fault. -/
def value : Reader Json
  | 0 => valueWith (fun _ => .error .malformed) (fun _ => .error .malformed)
  | limit + 1 =>
      valueWith
        (fun cs => do
          let (js, cs) ← items (value limit) cs
          return (.array js, cs))
        (fun cs => do
          let (es, cs) ← members
            (fun es key cs => do
              let (j, cs) ← value limit (← colon cs)
              return (Entries.insert key j es, cs))
            [] cs
          return (.object es, cs))

end Read

/-- Read a whole text. -/
def parseWith (reader : Reader α) (text : String) : Except Fault α := do
  let (a, cs) ← reader nestingLimit text.toList
  match Read.skipSpace cs with
  | [] => return a
  | _ => throw .malformed

/-- The value that a text holds. -/
def parse (text : String) : Except Fault Json :=
  parseWith Read.value text

end Json

end HandlerStudio
