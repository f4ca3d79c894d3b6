/-!
# The shortest text of a floating point number

A finite double stands for an interval of reals, those that round to it.  Its text has the fewest
decimal digits that still name a point of the interval, and among those the digits nearest to the
double itself.  All of this is exact arithmetic on natural numbers.
-/

namespace ClientGen.Text.Shortest

/-- A positive double as `mantissa * 2 ^ (exponent - 1074)`. -/
structure Binary where
  mantissa : Nat
  exponent : Nat
deriving DecidableEq, Repr

/-- Decodes the bits of a finite double, the sign left out. -/
def Binary.ofBits (bits : UInt64) : Binary :=
  let fraction := bits.toNat % Nat.pow 2 52
  let biased := bits.toNat / Nat.pow 2 52 % Nat.pow 2 11
  if biased = 0 then ⟨fraction, 0⟩ else ⟨Nat.pow 2 52 + fraction, biased - 1⟩

/-- Positive decimals as `digits * 10 ^ (shift - offset)`: one denominator and one numerator that
turn the powers of two and ten into natural numbers. -/
structure Scale where
  /-- What one unit of the binary grid is worth. -/
  binaryUnit : Nat
  /-- What one unit of the decimal grid is worth. -/
  decimalUnit : Nat

/-- The binary grid of `b` beside the decimal grid `10 ^ power`, in a common unit. -/
def Binary.scale (b : Binary) (power : Int) : Scale :=
  -- the value of one binary unit is `2 ^ (b.exponent - 1074)`, halved twice for the borders
  let twos : Int := b.exponent - 1076
  let up (base : Nat) (e : Int) : Nat := if 0 ≤ e then Nat.pow base e.toNat else 1
  ⟨up 2 twos * up 10 (-power), up 2 (-twos) * up 10 power⟩

/-- Is a distance, in quarters of a binary unit, within the interval of the double?  Downwards the
interval is half as wide where the mantissa is the smallest of its exponent. -/
def within (b : Binary) (s : Scale) (candidate : Nat) : Bool :=
  let value := 4 * b.mantissa * s.binaryUnit
  let point := candidate * s.decimalUnit
  let even := b.mantissa % 2 = 0
  let down := if b.mantissa = Nat.pow 2 52 ∧ 0 < b.exponent then s.binaryUnit else 2 * s.binaryUnit
  let upper := value + 2 * s.binaryUnit
  let lower := value - down
  if even then lower ≤ point && point ≤ upper else lower < point && point < upper

/-- The point of a decimal grid that lies in the interval and is nearest to the double. -/
def nearest? (b : Binary) (power : Int) : Option Nat :=
  let s := b.scale power
  let value := 4 * b.mantissa * s.binaryUnit
  let below := value / s.decimalUnit
  let distanceBelow := value - below * s.decimalUnit
  let distanceAbove := (below + 1) * s.decimalUnit - value
  let okBelow := below ≠ 0 && within b s below
  let okAbove := within b s (below + 1)
  if okBelow && okAbove then
    if distanceBelow < distanceAbove then some below
    else if distanceAbove < distanceBelow then some (below + 1)
    else some (if below % 2 = 0 then below else below + 1)
  else if okBelow then some below
  else if okAbove then some (below + 1)
  else none

/-- Searches ever finer decimal grids. -/
def search (b : Binary) : (grids : Nat) → (power : Int) → Nat × Int
  | 0, power => (0, power)
  | grids + 1, power =>
      match nearest? b power with
      | some digits => (digits, power)
      | none => search b grids (power - 1)

/-- Drops the zeros at the end of the digits. -/
def normalize : (bound : Nat) → Nat × Int → Nat × Int
  | 0, d => d
  | bound + 1, (digits, power) =>
      if digits ≠ 0 ∧ digits % 10 = 0 then normalize bound (digits / 10, power + 1)
      else (digits, power)

/-- The digits and the power of ten of a positive double.  The coarsest grid has one point above
every double; the finest that is needed has 17 digits for the smallest. -/
def decimal (bits : UInt64) : Nat × Int :=
  normalize 400 (search (Binary.ofBits bits) 660 310)

/-- Is the double neither infinite nor undefined? -/
def isFinite (x : Float) : Bool :=
  x.toBits.toNat / Nat.pow 2 52 % Nat.pow 2 11 ≠ 2047

/-- Is the sign bit set? -/
def isNegative (x : Float) : Bool :=
  x.toBits.toNat / Nat.pow 2 63 = 1

/-- Digits with a power of ten in positional notation, without a point if there is no fraction. -/
def positional (digits : Nat) (power : Int) : List Char :=
  let ds := Nat.toDigits 10 digits
  if 0 ≤ power then ds ++ List.replicate power.toNat '0'
  else
    let places := (-power).toNat
    let padded := List.replicate (places + 1 - ds.length) '0' ++ ds
    padded.take (padded.length - places) ++ '.' :: padded.drop (padded.length - places)

/-- The text of a double in positional notation. -/
def display (x : Float) : String :=
  if !isFinite x then
    if x.toBits.toNat % Nat.pow 2 52 ≠ 0 then "NaN" else if isNegative x then "-inf" else "inf"
  else
    let sign := if isNegative x then ['-'] else []
    let (digits, power) := decimal x.toBits
    if x == 0.0 then String.ofList (sign ++ ['0'])
    else String.ofList (sign ++ positional digits power)

/-- The text of a double in JSON: always with a point or an exponent.  Positional notation serves
from `1e-5` up to `1e16`. -/
def json (x : Float) : String :=
  if !isFinite x then "null"
  else
    let sign := if isNegative x then ['-'] else []
    let (digits, power) := decimal x.toBits
    if x == 0.0 then String.ofList (sign ++ ['0', '.', '0'])
    else
      let ds := Nat.toDigits 10 digits
      let point : Int := ds.length + power
      if 0 ≤ power ∧ point ≤ 16 then
        String.ofList (sign ++ positional digits power ++ ['.', '0'])
      else if -5 < point ∧ point ≤ 16 then String.ofList (sign ++ positional digits power)
      else
        let fraction := match ds with
          | [d] => [d]
          | d :: rest => d :: '.' :: rest
          | [] => []
        String.ofList (sign ++ fraction ++ 'e' :: (toString (point - 1)).toList)

end ClientGen.Text.Shortest
