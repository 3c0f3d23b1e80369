/-!
# Whole floating-point numbers

A finite floating-point number of 64 bits is a multiple of the least positive one, which is
`2 ^ (-1074)`. The number is whole exactly when the factor is a multiple of `2 ^ 1074`.
-/

namespace Rpn

/-- What a floating-point number is among the whole numbers. -/
inductive Wholeness where
  | whole (value : Int)
  | fraction
  | notFinite
  deriving DecidableEq, Repr

/-- A power of two. -/
def twoPow (exponent : Nat) : Nat :=
  Nat.pow 2 exponent

/-- The factor of the least positive number that a biased exponent and the bits of a fraction
stand for. Numbers with the least exponent have no hidden bit. -/
def leastUnits (exponent fraction : Nat) : Nat :=
  if exponent = 0 then fraction else (twoPow 52 + fraction) * twoPow (exponent - 1)

/-- What a floating-point number is among the whole numbers. -/
def wholeness (value : Float) : Wholeness :=
  let bits := value.toBits.toNat
  let exponent := bits / twoPow 52 % twoPow 11
  let units := leastUnits exponent (bits % twoPow 52)
  let magnitude : Int := units / twoPow 1074
  if exponent = twoPow 11 - 1 then .notFinite
  else if units % twoPow 1074 ≠ 0 then .fraction
  else .whole (if bits < twoPow 63 then magnitude else -magnitude)

end Rpn
