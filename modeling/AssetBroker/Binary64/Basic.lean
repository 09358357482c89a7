/-!
# Binary64 values

A property value may hold a double-precision number. It is kept here as its
IEEE 754 bit pattern, so that reading and writing decimal text are exact
functions on natural numbers that a proof can unfold, with no appeal to the
machine's floating-point unit.

A finite value is `m * 2^q` with `m` below `2^53`; `Binary64.decode` gives
that pair, and `Binary64.encode` packs a rounded pair back.
-/

namespace AssetBroker

/-- A double-precision number, as its 64 bits. -/
structure Binary64 where
  bits : UInt64
  deriving DecidableEq, Inhabited

namespace Binary64

/-- The sign bit: true for negative numbers, `-0.0` and negative infinity. -/
def sign (x : Binary64) : Bool := (x.bits >>> 63) == 1

/-- The eleven exponent bits, biased by 1023. -/
def biasedExponent (x : Binary64) : Nat := ((x.bits >>> 52) &&& 0x7FF).toNat

/-- The 52 bits of the fraction field. -/
def fraction (x : Binary64) : Nat := (x.bits &&& 0xFFFFFFFFFFFFF).toNat

/-- All exponent bits set and a non-zero fraction. -/
def isNaN (x : Binary64) : Bool := x.biasedExponent == 2047 && x.fraction != 0

/-- All exponent bits set and a zero fraction. -/
def isInfinite (x : Binary64) : Bool := x.biasedExponent == 2047 && x.fraction == 0

/-- Neither NaN nor infinite. -/
def isFinite (x : Binary64) : Bool := x.biasedExponent != 2047

/-- Positive or negative zero. -/
def isZero (x : Binary64) : Bool := x.biasedExponent == 0 && x.fraction == 0

/-- The integer significand of a finite value: the hidden bit is added for
normal numbers. -/
def significand (x : Binary64) : Nat :=
  if x.biasedExponent == 0 then x.fraction else x.fraction + Nat.pow 2 52

/-- The binary exponent of a finite value, so that its magnitude is
`significand * 2 ^ exponent`. -/
def exponent (x : Binary64) : Int :=
  if x.biasedExponent == 0 then -1074 else (x.biasedExponent : Int) - 1075

def zero : Binary64 := ⟨0⟩

def negZero : Binary64 := ⟨0x8000000000000000⟩

def infinity : Binary64 := ⟨0x7FF0000000000000⟩

def negInfinity : Binary64 := ⟨0xFFF0000000000000⟩

/-- The quiet NaN that arithmetic produces. -/
def nan : Binary64 := ⟨0x7FF8000000000000⟩

/-- Flips the sign bit. -/
def neg (x : Binary64) : Binary64 := ⟨x.bits ^^^ 0x8000000000000000⟩

/-- Equality as the number type defines it: a NaN equals nothing, and the two
zeros are equal. -/
def numericEq (x y : Binary64) : Bool :=
  if x.isNaN || y.isNaN then false
  else if x.isZero && y.isZero then true
  else x.bits == y.bits

/-- Packs a sign, a significand below `2^53` and an exponent into bits. The
significand is normal when it has 53 bits; a smaller one is subnormal and its
exponent must be `-1074`. An exponent past the largest finite value gives
infinity. -/
def encode (negative : Bool) (m : Nat) (q : Int) : Binary64 :=
  let signBits : UInt64 := if negative then 0x8000000000000000 else 0
  if m < Nat.pow 2 52 then
    ⟨signBits ||| (UInt64.ofNat m)⟩
  else if q > 971 then
    ⟨signBits ||| 0x7FF0000000000000⟩
  else
    let biased := (q + 1075).toNat
    ⟨signBits ||| (UInt64.ofNat biased <<< 52) ||| UInt64.ofNat (m - Nat.pow 2 52)⟩

end Binary64

end AssetBroker
