import HandlerStudio.Number.Double

/-!
# Shortest decimal digits

The decimal text of a double takes the fewest digits that are read back as the same double by a
reader that rounds to nearest. `Double.shortest` finds them by trying the two decimal numbers next
to the double on the grid of one digit, two digits, and so on: seventeen always suffice.
`Double.text` lays them out.
-/

namespace HandlerStudio

namespace Double

/-- How many decimal digits `n` has; one for zero. -/
def digitCount (n : Nat) : Nat :=
  (Nat.toDigits 10 n).length

/-- The greatest `k` with `10 ^ k` at most `num / den`, for positive `num` and `den`. -/
def decimalExponent (num den : Nat) : Int :=
  if den ≤ num then
    (digitCount (num / den) : Int) - 1
  else
    let t := digitCount (den / num)
    if num * Nat.pow 10 (t - 1) = den then 1 - (t : Int) else -(t : Int)

/-- The numbers that round to a double: an interval of fractions over one denominator, which holds
its ends when the mantissa is even. -/
structure Neighbourhood where
  low : Nat
  value : Nat
  high : Nat
  den : Nat
  closed : Bool

/-- Halfway to the next double on either side; below a power of two the next one is nearer. -/
def neighbourhood (x : Double) : Neighbourhood where
  low := (4 * x.mantissa - (if x.mantissa = 4503599627370496 ∧ 0 < x.scale then 1 else 2)) *
    Nat.pow 2 x.scale
  value := 4 * x.mantissa * Nat.pow 2 x.scale
  high := (4 * x.mantissa + 2) * Nat.pow 2 x.scale
  den := Nat.pow 2 1076
  closed := x.mantissa % 2 == 0

/-- Whether `num / den` of the given fraction rounds to the double. -/
def Neighbourhood.holds (n : Neighbourhood) (num den : Nat) : Bool :=
  if n.closed then n.low * den ≤ num * n.den && num * n.den ≤ n.high * den
  else n.low * den < num * n.den && num * n.den < n.high * den

/-- The point `digits * 10 ^ exponent` as a fraction. -/
def gridPoint (digits : Nat) (exponent : Int) : Nat × Nat :=
  match exponent with
  | .ofNat e => (digits * Nat.pow 10 e, 1)
  | .negSucc e => (digits, Nat.pow 10 (e + 1))

/-- The point of the grid of multiples of `10 ^ exponent` that reads back and is nearest, if one
does; of two equally near the one with an even last digit. -/
def Neighbourhood.onGrid? (n : Neighbourhood) (exponent : Int) : Option Nat :=
  let unit := gridPoint 1 exponent
  let below := n.value * unit.2 / (n.den * unit.1)
  let reads (d : Nat) : Bool := let p := gridPoint d exponent; n.holds p.1 p.2
  -- twice the place of the value above `below`, against one step of the grid
  let rest := 2 * (n.value * unit.2 - below * (n.den * unit.1))
  let step := n.den * unit.1
  match reads below, reads (below + 1) with
  | true, true =>
      some (if rest < step then below
        else if step < rest then below + 1
        else if below % 2 = 0 then below else below + 1)
  | true, false => some below
  | false, true => some (below + 1)
  | false, false => none

/-- Try grids of growing precision. -/
def Neighbourhood.search (n : Neighbourhood) (top : Int) : List Nat → Nat × Int
  | [] => (n.value / n.den, 0)
  | count :: rest =>
      let exponent := top - count + 1
      match n.onGrid? exponent with
      | some digits => (digits, exponent)
      | none => n.search top rest

/-- Drop trailing zeros from at most `fuel` places. -/
def trimZeros : (fuel : Nat) → Nat → Int → Nat × Int
  | 0, digits, exponent => (digits, exponent)
  | fuel + 1, digits, exponent =>
      if digits % 10 = 0 ∧ digits ≠ 0 then trimZeros fuel (digits / 10) (exponent + 1)
      else (digits, exponent)

/-- Digits and power of ten of the shortest decimal number that reads back as `x`. -/
def shortest (x : Double) : Nat × Int :=
  let n := x.neighbourhood
  let found := n.search (decimalExponent n.value n.den) ((List.range 17).map (· + 1))
  trimZeros 20 found.1 found.2

/-- How a decimal number is laid out. -/
structure Layout where
  /-- The least and the greatest exponent written without an exponent part. -/
  positional : Int × Int
  /-- What stands between the digits and the exponent, for exponents from zero and below. -/
  marks : String × String

/-- Positional from `0.00001` to below `10 ^ 16`, always with a point; else `1.5e+16` or `1.5e-7`.
-/
def layout : Layout := ⟨(-5, 15), ("e+", "e-")⟩

/-- Lay out `digits`, read with a point after the first one, times `10 ^ exponent`. -/
def Layout.write (l : Layout) (digits : List Char) (exponent : Int) : List Char :=
  if l.positional.1 ≤ exponent ∧ exponent ≤ l.positional.2 then
    match exponent with
    | .ofNat e =>
        let padded := digits ++ List.replicate (e + 1 - digits.length) '0'
        let fraction := padded.drop (e + 1)
        padded.take (e + 1) ++ '.' :: (if fraction.isEmpty then ['0'] else fraction)
    | .negSucc e => '0' :: '.' :: List.replicate e '0' ++ digits
  else
    let mark := if 0 ≤ exponent then l.marks.1 else l.marks.2
    let fraction := digits.drop 1
    digits.take 1 ++ (if fraction.isEmpty then [] else '.' :: fraction)
      ++ mark.toList ++ Nat.toDigits 10 exponent.natAbs

/-- The text of a double. -/
def text (x : Double) : List Char :=
  let magnitude :=
    if x.isZero then ['0', '.', '0']
    else
      let s := x.shortest
      let digits := Nat.toDigits 10 s.1
      layout.write digits (s.2 + digits.length - 1)
  if x.negative then '-' :: magnitude else magnitude

end Double

end HandlerStudio
