import AssetBroker.Binary64.Round

/-!
# Shortest decimal digits of a binary64

A finite non-zero value `m * 2^q` stands for every real number that rounds
to it: the interval halfway to each neighbour, its ends included when `m` is
even (a tie rounds to the even significand). The shortest text of the value
is the decimal with the fewest significant digits inside that interval, and
of two such decimals the one nearer the value.

A decimal grid with `n` digits has spacing `10^g`; if any point of it lies in
the interval, so does one of the two grid points around the value, since the
interval holds the value. So `Binary64.shortest` tries `n = 1, 2, …` and
looks only at those two points. Seventeen digits always suffice.
-/

namespace AssetBroker

/-- The decimal `digits * 10^exponent`. -/
structure Decimal where
  digits : Nat
  exponent : Int
  deriving DecidableEq, Inhabited

namespace Decimal

/-- Drops trailing zero digits into the exponent. -/
def normalize (d : Decimal) : Decimal :=
  go d.digits d.exponent 20
where
  go (digits : Nat) (exponent : Int) : Nat → Decimal
    | 0 => ⟨digits, exponent⟩
    | fuel + 1 =>
      if digits != 0 && digits % 10 == 0 then go (digits / 10) (exponent + 1) fuel
      else ⟨digits, exponent⟩

end Decimal

namespace Binary64

/-- Compares `a * 10^p` with `b * 2^e`, exactly. -/
def compareScaled (a : Nat) (p : Int) (b : Nat) (e : Int) : Ordering :=
  compare (a * Nat.pow 10 p.toNat * Nat.pow 2 (-e).toNat) (b * Nat.pow 2 e.toNat * Nat.pow 10 (-p).toNat)

/-- `⌊m * 2^q / 10^g⌋`. -/
def floorOnGrid (m : Nat) (q g : Int) : Nat :=
  (m * Nat.pow 2 q.toNat * Nat.pow 10 (-g).toNat) / (Nat.pow 2 (-q).toNat * Nat.pow 10 g.toNat)

/-- The decimal exponent of the leading digit of `m * 2^q` (`m > 0`): the
`E` with `10^E ≤ m * 2^q < 10^(E+1)`. An estimate from the bit length is
corrected by at most a few steps. -/
def leadingExponent (m : Nat) (q : Int) : Int :=
  let bits : Int := (m.log2 : Int) + q
  let estimate := (bits * 30103) / 100000
  down (up estimate 4) 4
where
  up (e : Int) : Nat → Int
    | 0 => e
    | fuel + 1 => if compareScaled 1 (e + 1) m q != .gt then up (e + 1) fuel else e
  down (e : Int) : Nat → Int
    | 0 => e
    | fuel + 1 => if compareScaled 1 e m q == .gt then down (e - 1) fuel else e

/-- The rounding interval of a finite non-zero value, in units of
`2^(exponent - 2)`: lower end, upper end, and whether the ends belong to it.
The gap below is half as wide at the bottom of a binade. -/
def roundingInterval (x : Binary64) : Nat × Nat × Bool :=
  let m := x.significand
  let lower := if m == Nat.pow 2 52 && x.biasedExponent > 1 then 4 * m - 1 else 4 * m - 2
  (lower, 4 * m + 2, m % 2 == 0)

/-- Whether `c * 10^g` lies in the rounding interval of `x`. -/
def inInterval (x : Binary64) (c : Nat) (g : Int) : Bool :=
  let (lower, upper, closed) := x.roundingInterval
  let q := x.exponent - 2
  let aboveLower := match compareScaled c g lower q with
    | .gt => true
    | .eq => closed
    | .lt => false
  let belowUpper := match compareScaled c g upper q with
    | .lt => true
    | .eq => closed
    | .gt => false
  aboveLower && belowUpper

/-- The grid point with `n` significant digits chosen for `x`, if one of the
two around it lies in the rounding interval. Of two, the nearer wins, and an
exact tie goes to the even digit string. -/
def onGrid? (x : Binary64) (lead : Int) (n : Nat) : Option Decimal :=
  let m := x.significand
  let q := x.exponent
  let g := lead + 1 - n
  let f := floorOnGrid m q g
  let lowOk := f != 0 && x.inInterval f g
  let highOk := x.inInterval (f + 1) g
  if lowOk && highOk then
    match compareScaled (2 * f + 1) g m (q + 1) with
    | .gt => some ⟨f, g⟩
    | .lt => some ⟨f + 1, g⟩
    | .eq => some (if f % 2 == 0 then ⟨f, g⟩ else ⟨f + 1, g⟩)
  else if lowOk then some ⟨f, g⟩
  else if highOk then some ⟨f + 1, g⟩
  else none

/-- The shortest decimal that reads back as the magnitude of `x`, nearest of
those; meant for finite non-zero values (zero gives `0`). -/
def shortest (x : Binary64) : Decimal :=
  if x.isZero then ⟨0, 0⟩
  else
    let lead := leadingExponent x.significand x.exponent
    let found := (List.range 17).findSome? fun i => x.onGrid? lead (i + 1)
    let fallback : Decimal := ⟨floorOnGrid x.significand x.exponent (lead - 16), lead - 16⟩
    (found.getD fallback).normalize

end Binary64

end AssetBroker
