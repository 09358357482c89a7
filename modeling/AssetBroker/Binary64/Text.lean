import AssetBroker.Binary64.Shortest

/-!
# Writing a binary64 as text

All three texts of a number start from its shortest digits and differ only in
layout, which a `DecimalStyle` record fixes: which leading-digit exponents are
written positionally, whether an integral positional value keeps `.0`, and
whether a positive exponent carries a plus sign.

* `DecimalStyle.debug`: positional for `1e-4 ≤ |x| < 1e16`, `.0` kept,
  exponent as `1e16` or `1e-7`.
* `DecimalStyle.display`: always positional, no `.0`.
* `DecimalStyle.json`: positional for `1e-5 ≤ |x| < 1e16`, `.0` kept,
  exponent as `1e+16` or `1e-7`; non-finite values are written `null`.
-/

namespace AssetBroker

/-- The layout decisions of one way of writing numbers. -/
structure DecimalStyle where
  /-- Smallest leading-digit exponent written positionally, if bounded. -/
  positionalFrom : Option Int
  /-- Leading-digit exponents from this one on are written with an exponent. -/
  positionalBelow : Option Int
  /-- An integral value written positionally ends in `.0`. -/
  pointZero : Bool
  /-- A positive exponent is written with `+`. -/
  exponentPlus : Bool
  /-- Text of NaN, positive and negative infinity. -/
  nonFinite : String × String × String

namespace DecimalStyle

/-- The diagnostic layout of numbers. -/
def debug : DecimalStyle := ⟨some (-4), some 16, true, false, ("NaN", "inf", "-inf")⟩

/-- The plain layout of numbers, never with an exponent. -/
def display : DecimalStyle := ⟨none, none, false, false, ("NaN", "inf", "-inf")⟩

/-- The layout of numbers in JSON text. -/
def json : DecimalStyle := ⟨some (-5), some 16, true, true, ("null", "null", "null")⟩

/-- Whether a value whose leading digit has exponent `lead` is written
positionally. -/
def positional (s : DecimalStyle) (lead : Int) : Bool :=
  (match s.positionalFrom with | some lo => lo ≤ lead | none => true) &&
  (match s.positionalBelow with | some hi => lead < hi | none => true)

end DecimalStyle

namespace Decimal

def zeros (n : Nat) : String := String.ofList (List.replicate n '0')

/-- Positional text of `digits * 10^exponent`. -/
def positional (d : Decimal) (pointZero : Bool) : String :=
  let ds := toString d.digits
  if d.exponent ≥ 0 then
    ds ++ zeros d.exponent.toNat ++ (if pointZero then ".0" else "")
  else
    let shift := (-d.exponent).toNat
    if shift < ds.length then
      let cs := ds.toList
      String.ofList (cs.take (ds.length - shift)) ++ "." ++ String.ofList (cs.drop (ds.length - shift))
    else
      "0." ++ zeros (shift - ds.length) ++ ds

/-- Exponent text of `digits * 10^exponent`: one leading digit, the others
after a point, then the exponent of the leading digit. -/
def scientific (d : Decimal) (exponentPlus : Bool) : String :=
  let cs := (toString d.digits).toList
  let lead : Int := d.exponent + (cs.length - 1 : Nat)
  let mantissa := match cs with
    | [] => "0"
    | [c] => String.singleton c
    | c :: rest => String.singleton c ++ "." ++ String.ofList rest
  let expText := if lead < 0 then "-" ++ toString lead.natAbs
    else (if exponentPlus then "+" else "") ++ toString lead.natAbs
  mantissa ++ "e" ++ expText

end Decimal

namespace Binary64

/-- The text of `x` in the given style. -/
def render (s : DecimalStyle) (x : Binary64) : String :=
  if x.isNaN then s.nonFinite.1
  else if x.isInfinite then (if x.sign then s.nonFinite.2.2 else s.nonFinite.2.1)
  else
    let d := x.shortest
    let lead : Int := d.exponent + ((toString d.digits).length - 1 : Nat)
    let body := if x.isZero || s.positional lead then d.positional s.pointZero
      else d.scientific s.exponentPlus
    (if x.sign then "-" else "") ++ body

/-- Diagnostic text: `1.0`, `0.1`, `1e16`, `-0.0`, `NaN`, `inf`. -/
def debugText (x : Binary64) : String := render DecimalStyle.debug x

/-- Plain text: `1`, `0.1`, `10000000000000000`, `-0`, `NaN`, `inf`. -/
def displayText (x : Binary64) : String := render DecimalStyle.display x

/-- JSON text: `1.0`, `1e+16`, `1e-7`; `null` for a non-finite value. -/
def jsonText (x : Binary64) : String := render DecimalStyle.json x

/-- Plain text with a decimal point, as messages about an unexpected number
show it: `1.0`, `100000000000000000000.0`, `0.5`, `NaN`, `inf`. -/
def pointedText (x : Binary64) : String :=
  let t := x.displayText
  if x.isFinite && !t.contains '.' then t ++ ".0" else t

end Binary64

end AssetBroker
