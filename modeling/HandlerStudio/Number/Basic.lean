import HandlerStudio.Number.Shortest

/-!
# Numbers of the data format

A number is a whole number that fits 64 bits, signed or not, or a double. The two kinds never
agree: `1` and `1.0` are different numbers.
-/

namespace HandlerStudio

/-- The first whole number that a signed 64-bit word cannot hold. -/
def signedLimit : Nat := 9223372036854775808

/-- The first whole number that an unsigned 64-bit word cannot hold. -/
def unsignedLimit : Nat := 18446744073709551616

inductive Number where
  /-- A whole number from `-2 ^ 63` to `2 ^ 64 - 1`. -/
  | int (value : Int)
  | float (value : Double)
deriving DecidableEq

namespace Number

/-- Equality of numbers: whole numbers and doubles differ, the two zeros of a double do not. -/
def same : Number → Number → Bool
  | .int a, .int b => a == b
  | .float a, .float b => a.same b
  | _, _ => false

/-- The decimal digits of a whole number. -/
def intText (z : Int) : List Char :=
  match z with
  | .ofNat n => Nat.toDigits 10 n
  | .negSucc n => '-' :: Nat.toDigits 10 (n + 1)

def text : Number → List Char
  | .int z => intText z
  | .float x => x.text

/-- The value as a signed 64-bit number. -/
def toInt64? : Number → Option Int
  | .int z => if z < signedLimit then some z else none
  | .float _ => none

/-- The value as an unsigned 64-bit number. -/
def toNat64? : Number → Option Nat
  | .int (.ofNat n) => some n
  | _ => none

/-- Whether a whole number fits 64 bits. -/
def inRange (z : Int) : Bool :=
  -(signedLimit : Int) ≤ z && z < unsignedLimit

end Number

end HandlerStudio
