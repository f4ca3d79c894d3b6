/-!
# Reading decimals

The double that a decimal rounds to.  Decimals that lie far outside of the range of doubles are
decided by their size, so that no huge powers of ten are built.
-/

namespace ClientGen.Text

/-- The double nearest to `digits * 10 ^ power`: infinite if the decimal is too large. -/
def doubleOf (digits : Nat) (power : Int) : Float :=
  let magnitude : Int := (Nat.toDigits 10 digits).length + power
  if digits = 0 || magnitude < -400 then 0.0
  else if 400 < magnitude then 1.0 / 0.0
  else Float.ofScientific digits (power < 0) power.natAbs

end ClientGen.Text
