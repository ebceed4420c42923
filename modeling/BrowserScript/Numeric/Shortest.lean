import BrowserScript.Numeric.Binary64

/-!
# The shortest decimal of a number

The decimal with the fewest digits that reads back as a given binary64 number, and of those the
nearest to it, together with the notations in which such a decimal is written.
-/

namespace BrowserScript

structure Decimal where
  digits : Nat
  exponent : Int
  deriving DecidableEq, Repr

namespace Decimal

def scaledLe (a : Nat) (k : Int) (num den : Nat) : Bool :=
  if 0 ≤ k then a * Nat.pow 10 k.toNat * den ≤ num else a * den ≤ num * Nat.pow 10 (-k).toNat

def leScaled (num den a : Nat) (k : Int) : Bool :=
  if 0 ≤ k then num ≤ a * Nat.pow 10 k.toNat * den else num * Nat.pow 10 (-k).toNat ≤ a * den

def length (n : Nat) : Nat := (Nat.toDigits 10 n).length

/-- The greatest `k` with `10 ^ k ≤ num / den`, for positive `num` and `den`. -/
def floorLog10 (num den : Nat) : Int :=
  let k : Int := (length num : Int) - (length den : Int)
  if scaledLe 1 k num den then k else k - 1

def grid (num den : Nat) (k : Int) : Nat :=
  if 0 ≤ k then num / (den * Nat.pow 10 k.toNat) else num * Nat.pow 10 (-k).toNat / den

/-- The reals that round to one number: from `low / den` to `high / den` around `value / den`,
ends included if `closed`. -/
structure Interval where
  low : Nat
  value : Nat
  high : Nat
  den : Nat
  closed : Bool

namespace Interval

/-- The interval of the reals that round to `mantissa · 2 ^ exponent`.  The gap below a power of
two is half as wide, unless the exponent is already the least. -/
def ofParts (mantissa : Nat) (exponent : Int) : Interval :=
  let unit := Binary64.ratio 1 (exponent - 2)
  let below := if mantissa = Nat.pow 2 52 ∧ Binary64.minExponent < exponent then 1 else 2
  { low := (4 * mantissa - below) * unit.1
    value := 4 * mantissa * unit.1
    high := (4 * mantissa + 2) * unit.1
    den := unit.2
    closed := mantissa % 2 = 0 }

def holds (i : Interval) (a : Nat) (k : Int) : Bool :=
  if i.closed then leScaled i.low i.den a k && scaledLe a k i.high i.den
  else !scaledLe a k i.low i.den && !leScaled i.high i.den a k

/-- Twice the distance from `a · 10 ^ k` down to the value, against the step of the grid: whether
the upper neighbour `a + 1` is at least as near as `a`. -/
def upperNearer (i : Interval) (a : Nat) (k : Int) : Bool :=
  if 0 ≤ k then (2 * a + 1) * Nat.pow 10 k.toNat * i.den ≤ 2 * i.value
  else (2 * a + 1) * i.den ≤ 2 * i.value * Nat.pow 10 (-k).toNat

/-- The decimal of at most `count` digits in the interval that is nearest to the value. -/
def nearest? (i : Interval) (count : Nat) : Option Decimal :=
  let k := floorLog10 i.value i.den - count + 1
  let a := grid i.value i.den k
  match i.holds a k, i.holds (a + 1) k with
  | true, true => some ⟨if i.upperNearer a k then a + 1 else a, k⟩
  | true, false => some ⟨a, k⟩
  | false, true => some ⟨a + 1, k⟩
  | false, false => none

end Interval

def strip : Nat → Decimal → Decimal
  | 0, d => d
  | n + 1, d =>
    if d.digits % 10 = 0 ∧ d.digits ≠ 0 then strip n ⟨d.digits / 10, d.exponent + 1⟩ else d

/-- The decimal with the fewest digits that reads back as `mantissa · 2 ^ exponent`. -/
def shortest (mantissa : Nat) (exponent : Int) : Decimal :=
  if mantissa = 0 then ⟨0, 0⟩
  else
    let i := Interval.ofParts mantissa exponent
    match (List.range 17).findSome? fun n => i.nearest? (n + 1) with
    | some d => strip 17 d
    | none => ⟨mantissa, exponent⟩

end Decimal

/-- How numbers are written: between which powers of ten positionally, whether a whole number
keeps a `.0`, and whether a positive exponent carries its sign. -/
structure NumberStyle where
  positionalFrom : Option Int
  positionalBelow : Option Int
  keepPoint : Bool
  plusSign : Bool

namespace NumberStyle

def plain : NumberStyle := ⟨none, none, false, false⟩

/-- Positional from `10 ^ -4` to below `10 ^ 16`, and always with a point there. -/
def detailed : NumberStyle := ⟨some (-4), some 16, true, false⟩

/-- Positional from `10 ^ -5` to below `10 ^ 16`, with a point there and a signed exponent
elsewhere. -/
def json : NumberStyle := ⟨some (-5), some 16, true, true⟩

def positional (style : NumberStyle) (d : Decimal) : String :=
  let ds := Nat.toDigits 10 d.digits
  let tail := if style.keepPoint then ".0" else ""
  if 0 ≤ d.exponent then
    String.ofList (if d.digits = 0 then ds else ds ++ List.replicate d.exponent.toNat '0') ++ tail
  else
    let places := (-d.exponent).toNat
    let padded := List.replicate (places + 1 - ds.length) '0' ++ ds
    let whole := padded.length - places
    String.ofList (padded.take whole ++ '.' :: padded.drop whole)

def scientific (style : NumberStyle) (d : Decimal) : String :=
  let ds := Nat.toDigits 10 d.digits
  let power : Int := d.exponent + ds.length - 1
  let lead := match ds with
    | [c] => [c]
    | c :: rest => c :: '.' :: rest
    | [] => []
  let sign := if power < 0 then "-" else if style.plusSign then "+" else ""
  String.ofList lead ++ "e" ++ sign ++ toString power.natAbs

def decimalText (style : NumberStyle) (d : Decimal) : String :=
  let power : Int := d.exponent + Decimal.length d.digits - 1
  let small := style.positionalFrom.any fun low => power < low
  let large := style.positionalBelow.any fun high => high ≤ power
  if d.digits ≠ 0 ∧ (small || large) then style.scientific d else style.positional d

def text (style : NumberStyle) : Binary64 → String
  | .nan => "NaN"
  | .infinite negative => if negative then "-inf" else "inf"
  | .finite negative m e =>
    let body := style.decimalText (Decimal.shortest m e)
    if negative then "-" ++ body else body

end NumberStyle

end BrowserScript
