import HandlerStudio.Number.Double

/-!
# Decimal texts

The double nearest to a decimal number such as `-12.5e3`: an optional sign, digits with at most one
point among them, and an optional exponent.
-/

namespace HandlerStudio

namespace Double

/-- The number that decimal digits stand for. -/
def digitsValue (cs : List Char) : Nat :=
  cs.foldl (fun n c => n * 10 + (c.toNat - '0'.toNat)) 0

/-- A sign in front, minus or not. -/
def splitSign : List Char → Bool × List Char
  | '-' :: cs => (true, cs)
  | '+' :: cs => (false, cs)
  | cs => (false, cs)

/-- A whole number with an optional sign. -/
def signedValue? (cs : List Char) : Option Int :=
  let (negative, digits) := splitSign cs
  if digits.isEmpty || !digits.all Char.isDigit then none
  else
    let n : Int := digitsValue digits
    some (if negative then -n else n)

/-- The exponent after its mark; nothing stands for zero. -/
def exponentValue? : List Char → Option Int
  | [] => some 0
  | c :: cs => if c = 'e' ∨ c = 'E' then signedValue? cs else none

/-- The double nearest to a decimal text; none if the text is no number or too large. -/
def ofText? (text : String) : Option Double := do
  let (negative, cs) := splitSign text.toList
  let whole := cs.takeWhile Char.isDigit
  let rest := cs.dropWhile Char.isDigit
  let (fraction, rest) :=
    match rest with
    | '.' :: rest => (rest.takeWhile Char.isDigit, rest.dropWhile Char.isDigit)
    | _ => ([], rest)
  guard !(whole.isEmpty && fraction.isEmpty)
  let exponent ← exponentValue? rest
  ofDecimal? negative (digitsValue (whole ++ fraction)) (exponent - fraction.length)

end Double

end HandlerStudio
