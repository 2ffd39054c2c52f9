/-!
# Binary floating point

A `Double` is a finite binary64 number held exactly: a sign, a mantissa below `2 ^ 53` and a power
of two, counted from the smallest one. All arithmetic is done on natural numbers and rounded once
to the nearest double, a half going to the even neighbour. What lies beyond the largest double has
no value here.
-/

namespace HandlerStudio

/-- The number `mantissa * 2 ^ scale / 2 ^ 1074`, with a sign that zero has too. Only numbers
below `2 ^ 52 / 2 ^ 1074` have a mantissa below `2 ^ 52 = 4503599627370496`, so each number has
one form. -/
structure Double where
  negative : Bool
  mantissa : Nat
  scale : Nat
  canonical : mantissa < 9007199254740992 ∧ scale ≤ 2045 ∧
    (scale = 0 ∨ 4503599627370496 ≤ mantissa)
deriving DecidableEq

namespace Double

/-- Zero, of either sign. -/
def zero (negative : Bool) : Double :=
  ⟨negative, 0, 0, by decide⟩

def isZero (x : Double) : Bool :=
  x.mantissa == 0

/-- `num / den` as a whole number, a half going to the even neighbour. -/
def roundHalfEven (num den : Nat) : Nat :=
  let q := num / den
  let r := num % den
  if 2 * r < den then q
  else if den < 2 * r then q + 1
  else if q % 2 = 0 then q
  else q + 1

/-- The double with this mantissa and scale, if they are those of one. -/
def ofParts? (negative : Bool) (mantissa scale : Nat) : Option Double :=
  if h : mantissa < 9007199254740992 ∧ scale ≤ 2045 ∧
      (scale = 0 ∨ 4503599627370496 ≤ mantissa) then
    some ⟨negative, mantissa, scale, h⟩
  else none

/-- The double nearest to `num / den`; none if that is beyond the largest. -/
def ofRatio? (negative : Bool) (num den : Nat) : Option Double :=
  let n := num * Nat.pow 2 1074
  let k := (n / den).log2 - 52
  let m := roundHalfEven n (den * Nat.pow 2 k)
  if m = 9007199254740992 then ofParts? negative 4503599627370496 (k + 1)
  else ofParts? negative m k

def ofNat? (n : Nat) : Option Double :=
  ofRatio? false n 1

def mul? (x y : Double) : Option Double :=
  ofRatio? (x.negative != y.negative)
    (x.mantissa * y.mantissa * Nat.pow 2 (x.scale + y.scale)) (Nat.pow 2 2148)

/-- Division by a number that is not zero. -/
def div? (x y : Double) : Option Double :=
  ofRatio? (x.negative != y.negative) (x.mantissa * Nat.pow 2 x.scale)
    (y.mantissa * Nat.pow 2 y.scale)

/-- Equality of the numbers: the two zeros are equal. -/
def same (x y : Double) : Bool :=
  x.mantissa == y.mantissa && x.scale == y.scale && (x.negative == y.negative || x.isZero)

/-- The double nearest to `10 ^ k`. -/
def powerOfTen? (k : Nat) : Option Double :=
  ofNat? (Nat.pow 10 k)

/-- The double nearest to `significand * 10 ^ exponent`. The power of ten is not computed for
numbers beyond the largest double, nor for those far below the smallest. -/
def ofDecimal? (negative : Bool) (significand : Nat) (exponent : Int) : Option Double :=
  let places : Int := (Nat.toDigits 10 significand).length + exponent
  if significand = 0 ∨ places < -400 then some (zero negative)
  else if 400 < places then none
  else match exponent with
  | .ofNat e => ofRatio? negative (significand * Nat.pow 10 e) 1
  | .negSucc e => ofRatio? negative significand (Nat.pow 10 (e + 1))

/-- Divide by `10 ^ 308` as often as asked; zero stays zero. -/
def shrink? : Nat → Double → Option Double
  | 0, x => some x
  | n + 1, x => if x.isZero then some x else do shrink? n (← x.div? (← powerOfTen? 308))

/-- A double near `significand * 10 ^ exponent`, taken in steps that round each: the significand
first, then one product with a power of ten, or quotients by powers of at most `10 ^ 308`. It is
the nearest double when the significand and the power of ten are doubles themselves. -/
def scaled? (negative : Bool) (significand : Nat) (exponent : Int) : Option Double := do
  let x ← ofNat? significand
  let x := { x with negative := negative }
  match exponent with
  | .ofNat e =>
      if x.isZero then return x
      if e > 308 then none else x.mul? (← powerOfTen? e)
  | .negSucc e =>
      let y ← shrink? (e / 308) x
      y.div? (← powerOfTen? (e % 308 + 1))

end Double

end HandlerStudio
