import HandlerStudio.Number.Basic
import HandlerStudio.Number.Decimal
import HandlerStudio.Text.Characters
import HandlerStudio.Toml.Basic
import HandlerStudio.Toml.Quoted

/-!
# Numbers, dates and times

Whole numbers fit a signed 64-bit word. Between two digits there may be an underscore. Dates exist
in the calendar.
-/

namespace HandlerStudio.Toml.Literal

/-! ## Numbers -/

/-- More digits, without the underscores between them. -/
def moreDigits (isDigit : Char → Bool) : List Char → Option (List Char × List Char)
  | [] => some ([], [])
  | ['_'] => none
  | '_' :: c :: cs =>
      if isDigit c then do
        let (rest, cs) ← moreDigits isDigit cs
        return (c :: rest, cs)
      else none
  | c :: cs =>
      if isDigit c then do
        let (rest, cs) ← moreDigits isDigit cs
        return (c :: rest, cs)
      else some ([], c :: cs)

/-- At least one digit. -/
def digits (isDigit : Char → Bool) : List Char → Option (List Char × List Char)
  | [] => none
  | c :: cs =>
      if isDigit c then do
        let (rest, cs) ← moreDigits isDigit cs
        return (c :: rest, cs)
      else none

/-- An optional sign. -/
def sign : List Char → List Char × List Char
  | '+' :: cs => (['+'], cs)
  | '-' :: cs => (['-'], cs)
  | cs => ([], cs)

/-- A decimal whole number with an optional sign. A zero stands alone. -/
def decimal (cs : List Char) : Option (List Char × List Char) :=
  let (s, cs) := sign cs
  match cs with
  | '0' :: cs => some (s ++ ['0'], cs)
  | cs => do
      let (ds, cs) ← digits Char.isDigit cs
      return (s ++ ds, cs)

def inRange (z : Int) : Bool := -(signedLimit : Int) ≤ z && z < signedLimit

/-- A whole number in another base, after its mark. -/
def based (base : Nat) (cs : List Char) : Option (Value × List Char) := do
  let value? (c : Char) : Option Nat := (Text.hexDigit? c).filter (· < base)
  let (ds, cs) ← digits (fun c => (value? c).isSome) cs
  let n : Int := ds.foldl (fun n c => n * base + (value? c).getD 0) 0
  guard (inRange n)
  return (.integer n, cs)

def integer : List Char → Option (Value × List Char)
  | '0' :: 'x' :: cs => based 16 cs
  | '0' :: 'o' :: cs => based 8 cs
  | '0' :: 'b' :: cs => based 2 cs
  | cs => do
      let (ds, cs) ← decimal cs
      let z ← Double.signedValue? ds
      guard (inRange z)
      return (.integer z, cs)

/-- The part after the point. -/
def fraction : List Char → Option (List Char × List Char)
  | '.' :: cs => do
      let (ds, cs) ← digits Char.isDigit cs
      return ('.' :: ds, cs)
  | _ => none

/-- The power of ten. -/
def exponent : List Char → Option (List Char × List Char)
  | c :: cs =>
      if c = 'e' ∨ c = 'E' then do
        let (s, cs) := sign cs
        let (ds, cs) ← digits Char.isDigit cs
        return ('e' :: s ++ ds, cs)
      else none
  | [] => none

/-- What makes a number a float: a fraction, an exponent or both. -/
def floatPart (cs : List Char) : Option (List Char × List Char) :=
  match exponent cs with
  | some r => some r
  | none => do
      let (f, cs) ← fraction cs
      match exponent cs with
      | some (e, cs) => return (f ++ e, cs)
      | none => return (f, cs)

/-- A number that is not whole, or that has no end or no value. A positive one must have a double
near it. -/
def float (cs : List Char) : Option (Value × List Char) :=
  match sign cs with
  | (s, 'i' :: 'n' :: 'f' :: cs) => some (.float (String.ofList (s ++ ['i', 'n', 'f'])), cs)
  | (s, 'n' :: 'a' :: 'n' :: cs) => some (.float (String.ofList (s ++ ['n', 'a', 'n'])), cs)
  | _ => do
      let (whole, cs) ← decimal cs
      let (part, cs) ← floatPart cs
      let literal := String.ofList (whole ++ part)
      guard ((Double.ofText? literal).isSome || whole.head? == some '-')
      return (.float literal, cs)

/-! ## Dates and times -/

/-- So many digits. -/
def fixedDigits (count : Nat) (cs : List Char) : Option (Nat × List Char) :=
  let ds := cs.take count
  if ds.length = count ∧ ds.all Char.isDigit then some (Double.digitsValue ds, cs.drop count)
  else none

/-- Two digits in a range. -/
def pair (low high : Nat) (cs : List Char) : Option (Nat × List Char) := do
  let (n, cs) ← fixedDigits 2 cs
  guard (low ≤ n ∧ n ≤ high)
  return (n, cs)

/-- A character. -/
def mark (c : Char) : List Char → Option (List Char)
  | d :: cs => if c = d then some cs else none
  | [] => none

def isLeapYear (year : Nat) : Bool := year % 4 == 0 && (year % 100 != 0 || year % 400 == 0)

def daysIn (year month : Nat) : Nat :=
  if month = 2 then if isLeapYear year then 29 else 28
  else if month = 4 ∨ month = 6 ∨ month = 9 ∨ month = 11 then 30
  else 31

/-- A day of the calendar. -/
def date (cs : List Char) : Option (List Char) := do
  let (year, cs) ← fixedDigits 4 cs
  let (month, cs) ← pair 1 12 (← mark '-' cs)
  let (_, cs) ← pair 1 (daysIn year month) (← mark '-' cs)
  return cs

/-- Parts of a second; nothing if there are none. -/
def secondFraction : List Char → List Char
  | '.' :: c :: cs => if c.isDigit then cs.dropWhile Char.isDigit else '.' :: c :: cs
  | cs => cs

/-- A time of the day. A minute may have a leap second. -/
def time (cs : List Char) : Option (List Char) := do
  let (_, cs) ← pair 0 23 cs
  let (_, cs) ← pair 0 59 (← mark ':' cs)
  let (_, cs) ← pair 0 60 (← mark ':' cs)
  return secondFraction cs

/-- The offset from universal time; nothing if there is none. -/
def offset : List Char → Option (List Char)
  | 'Z' :: cs => some cs
  | 'z' :: cs => some cs
  | c :: cs =>
      if c = '+' ∨ c = '-' then do
        let (_, cs) ← pair 0 23 cs
        let (_, cs) ← pair 0 59 (← mark ':' cs)
        return cs
      else some (c :: cs)
  | [] => some []

/-- A time after a date. -/
def timeAfterDate : List Char → Option (List Char)
  | c :: cs => if c = 'T' ∨ c = 't' ∨ c = ' ' then time cs else none
  | [] => none

/-- A date, a time, or both; only then there may be an offset. -/
def momentEnd (cs : List Char) : Option (List Char) :=
  match date cs with
  | none => time cs
  | some cs =>
      match timeAfterDate cs with
      | none => some cs
      | some cs => offset cs

def moment (cs : List Char) : Option (Value × List Char) := do
  let rest ← momentEnd cs
  return (.moment (String.ofList (cs.take (cs.length - rest.length))), rest)

/-- A number, a date or a time. -/
def read (cs : List Char) : Option (Value × List Char) :=
  (moment cs).or ((float cs).or (integer cs))

end HandlerStudio.Toml.Literal
