import AssetBroker.Binary64.Basic

/-!
# Rounding a ratio to the nearest binary64

Every number that reaches a binary64 from outside (a decimal literal, an
integer too wide for the integer type) is a ratio of two natural numbers.
`Binary64.ofRatio` rounds such a ratio to the nearest representable value,
a tie going to the even significand, with subnormals and overflow to
infinity as the standard lays down. Decimal reading is this rounding applied
to `digits * 10^exp`.
-/

namespace AssetBroker

namespace Binary64

/-- `⌊num / (den * 2^e)⌋`, and how twice the remainder compares with the
divisor: below, at or above one half. -/
def divPow2 (num den : Nat) (e : Int) : Nat × Ordering :=
  let n := num * Nat.pow 2 (-e).toNat
  let d := den * Nat.pow 2 e.toNat
  (n / d, compare (2 * (n % d)) d)

/-- Rounds a quotient by the position of its remainder: a half goes to the
even neighbour. -/
def roundHalfEven (q : Nat) : Ordering → Nat
  | .lt => q
  | .gt => q + 1
  | .eq => if q % 2 == 0 then q else q + 1

/-- The binary64 nearest to `num / den`, negated when `negative`.
A zero numerator gives a zero of the requested sign; `den` must be positive. -/
def ofRatio (negative : Bool) (num den : Nat) : Binary64 :=
  if num == 0 || den == 0 then
    if negative then negZero else zero
  else
    let e0 : Int := (num.log2 : Int) - den.log2 - 53
    let e1 := if (divPow2 num den e0).1 ≥ Nat.pow 2 53 then e0 + 1 else e0
    let e := max e1 (-1074)
    let (q, half) := divPow2 num den e
    let m := roundHalfEven q half
    if m == Nat.pow 2 53 then encode negative (Nat.pow 2 52) (e + 1) else encode negative m e

/-- The binary64 nearest to an integer. -/
def ofInt (n : Int) : Binary64 := ofRatio (n < 0) n.natAbs 1

/-- The number of decimal digits of `n`, one for zero. -/
def decimalWidth (n : Nat) : Nat := (Nat.toDigits 10 n).length

/-- The binary64 nearest to `digits * 10^exp`. Values that are far beyond
the range of the format go to zero or infinity without computing a huge
power of ten. -/
def ofDecimal (negative : Bool) (digits : Nat) (exp : Int) : Binary64 :=
  let magnitude : Int := (decimalWidth digits : Int) + exp
  if digits == 0 || magnitude < -330 then
    if negative then negZero else zero
  else if magnitude > 311 then
    if negative then negInfinity else infinity
  else if exp ≥ 0 then
    ofRatio negative (digits * Nat.pow 10 exp.toNat) 1
  else
    ofRatio negative digits (Nat.pow 10 (-exp).toNat)

end Binary64

end AssetBroker
