import AssetBroker.Binary64.Round

/-!
# Reading a binary64 from text

The accepted text is an optional sign followed by `inf`, `infinity` or `nan`
in any case, or by decimal digits with an optional point and an optional
exponent (`e` or `E`, optional sign, at least one digit). At least one digit
must stand before or after the point. The value is the nearest binary64.
-/

namespace AssetBroker

namespace Binary64

def digitsValue (ds : List Char) : Nat :=
  ds.foldl (fun acc c => acc * 10 + (c.toNat - '0'.toNat)) 0

/-- Splits off the longest prefix of decimal digits. -/
def spanDigits (cs : List Char) : List Char × List Char :=
  (cs.takeWhile Char.isDigit, cs.dropWhile Char.isDigit)

/-- An optional exponent part `e[+-]digits`, as a signed value; `none` when
the text after the mantissa is not exactly such a part. -/
def readExponent? : List Char → Option Int
  | [] => some 0
  | c :: rest =>
    if c == 'e' || c == 'E' then
      let (negative, body) := match rest with
        | '+' :: r => (false, r)
        | '-' :: r => (true, r)
        | r => (false, r)
      if body.isEmpty || !body.all Char.isDigit then none
      else
        let v : Int := digitsValue body
        some (if negative then -v else v)
    else none

/-- Reads an unsigned decimal mantissa with optional exponent. -/
def readUnsigned? (negative : Bool) (cs : List Char) : Option Binary64 :=
  let (whole, rest) := spanDigits cs
  let (frac, rest) := match rest with
    | '.' :: r => spanDigits r
    | r => ([], r)
  let hasPoint := match cs.drop whole.length with
    | '.' :: _ => true
    | _ => false
  if whole.isEmpty && frac.isEmpty then none
  else if !hasPoint && !frac.isEmpty then none
  else
    match readExponent? rest with
    | none => none
    | some e => some (ofDecimal negative (digitsValue (whole ++ frac)) (e - frac.length))

/-- Reads a number from text, or `none` when the text is not one. -/
def readText? (s : String) : Option Binary64 :=
  let cs := s.toList
  let (negative, body) := match cs with
    | '-' :: r => (true, r)
    | '+' :: r => (false, r)
    | r => (false, r)
  let word := String.ofList (body.map Char.toLower)
  if word == "inf" || word == "infinity" then
    some (if negative then negInfinity else infinity)
  else if word == "nan" then
    some (if negative then nan.neg else nan)
  else readUnsigned? negative body

end Binary64

end AssetBroker
