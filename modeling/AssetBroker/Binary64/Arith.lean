import AssetBroker.Binary64.Round

/-!
# Rounded multiplication and division

The product and the quotient of two binary64 values, each rounded once to
the nearest value as the standard requires. Both are computed exactly on the
significands and rounded by `Binary64.ofRatio`, so they agree with a
conforming floating-point unit on finite operands.
-/

namespace AssetBroker

namespace Binary64

/-- `num / den * 2^e`, rounded to the nearest binary64. -/
def ofScaled (negative : Bool) (num den : Nat) (e : Int) : Binary64 :=
  ofRatio negative (num * Nat.pow 2 e.toNat) (den * Nat.pow 2 (-e).toNat)

/-- The rounded product. A zero factor gives a zero and an infinite one an
infinity, signed by the signs of the factors; NaN stays NaN. -/
def mul (x y : Binary64) : Binary64 :=
  let negative := x.sign != y.sign
  if x.isNaN || y.isNaN then nan
  else if x.isInfinite || y.isInfinite then
    if x.isZero || y.isZero then nan
    else if negative then negInfinity else infinity
  else if x.isZero || y.isZero then (if negative then negZero else zero)
  else ofScaled negative (x.significand * y.significand) 1 (x.exponent + y.exponent)

/-- The rounded quotient, for a finite non-zero divisor; a zero divisor or
a non-finite operand gives NaN here, as no caller divides by such values. -/
def div (x y : Binary64) : Binary64 :=
  let negative := x.sign != y.sign
  if x.isNaN || y.isNaN || y.isZero || !x.isFinite || !y.isFinite then nan
  else if x.isZero then (if negative then negZero else zero)
  else ofScaled negative x.significand y.significand (x.exponent - y.exponent)

/-- The binary64 nearest to `10^n`. -/
def powTen (n : Nat) : Binary64 := ofRatio false (Nat.pow 10 n) 1

end Binary64

end AssetBroker
