/-! # The double-precision number nearest to a decimal -/

namespace Packaging.Decimal

/-- The double-precision number nearest to `digits * 10 ^ power`. Powers that decide between zero,
infinity and a number without regard to the digits are cut off first. -/
def nearest (digits : Nat) (power : Int) : Float :=
  let places := (Nat.toDigits 10 digits).length
  if digits = 0 ∨ power + places < -400 then 0
  else if 400 < power + places then 1.0 / 0.0
  else Float.ofScientific digits (power < 0) power.natAbs

end Packaging.Decimal
