/-!
# Binary64 numbers

Numbers with a 53-bit mantissa, as exact pairs `± mantissa · 2 ^ exponent`.  Every operation
computes its exact result as a quotient of naturals and rounds once, to the nearest number, a tie
going to the even mantissa.
-/

namespace BrowserScript

/-- A binary64 number.  A finite one is `mantissa · 2 ^ exponent`, negated if `negative`; the
numbers that `round` makes have a mantissa below `2 ^ 53` and an exponent from `-1074` to `971`,
and the mantissa is at least `2 ^ 52` unless the exponent is the least. -/
inductive Binary64 where
  | nan
  | infinite (negative : Bool)
  | finite (negative : Bool) (mantissa : Nat) (exponent : Int)
  deriving DecidableEq, Repr

namespace Binary64

def minExponent : Int := -1074

def maxExponent : Int := 971

def zero (negative : Bool) : Binary64 := .finite negative 0 minExponent

/-- The quotient `num / den` rounded to the nearest natural, a tie going to the even one. -/
def divEven (num den : Nat) : Nat :=
  let q := num / den
  let r := num % den
  if 2 * r < den then q
  else if den < 2 * r then q + 1
  else if q % 2 = 0 then q else q + 1

def scale (num den : Nat) (e : Int) : Nat × Nat :=
  if 0 ≤ e then (num, den * Nat.pow 2 e.toNat) else (num * Nat.pow 2 (-e).toNat, den)

/-- The greatest `k` with `2 ^ k ≤ num / den`, for positive `num` and `den`. -/
def floorLog2 (num den : Nat) : Int :=
  let k : Int := (Nat.log2 num : Int) - (Nat.log2 den : Int)
  let s := scale num den k
  if s.2 ≤ s.1 then k else k - 1

def round (negative : Bool) (num den : Nat) : Binary64 :=
  if num = 0 ∨ den = 0 then zero negative
  else
    let e := max (floorLog2 num den - 52) minExponent
    let s := scale num den e
    let m := divEven s.1 s.2
    let carried := m = Nat.pow 2 53
    let mantissa := if carried then Nat.pow 2 52 else m
    let exponent := if carried then e + 1 else e
    if maxExponent < exponent then .infinite negative else .finite negative mantissa exponent

def ofNat (n : Nat) : Binary64 := round false n 1

/-- The number nearest to `digits · 10 ^ exponent`, negated if `negative`.  Where the power of ten
leads beyond every number, or below them all, it is not computed. -/
def ofDecimal (negative : Bool) (digits : Nat) (exponent : Int) : Binary64 :=
  let bits : Int := Nat.log2 digits
  if digits = 0 then zero negative
  else if 400 < bits * 3 / 10 + exponent then .infinite negative
  else if bits / 3 + exponent < -400 then zero negative
  else if 0 ≤ exponent then round negative (digits * Nat.pow 10 exponent.toNat) 1
  else round negative digits (Nat.pow 10 (-exponent).toNat)

def ratio (mantissa : Nat) (exponent : Int) : Nat × Nat :=
  scale mantissa 1 (-exponent)

def isNegative : Binary64 → Bool
  | .nan => false
  | .infinite s => s
  | .finite s _ _ => s

def isFinite : Binary64 → Bool
  | .finite .. => true
  | _ => false

def isZero : Binary64 → Bool
  | .finite _ m _ => m = 0
  | _ => false

def neg : Binary64 → Binary64
  | .nan => .nan
  | .infinite s => .infinite !s
  | .finite s m e => .finite (!s) m e

def mul : Binary64 → Binary64 → Binary64
  | .finite s m e, .finite t n f =>
    let r := ratio (m * n) (e + f)
    round (s != t) r.1 r.2
  | .nan, _ => .nan
  | _, .nan => .nan
  | a, b => if a.isZero || b.isZero then .nan else .infinite (a.isNegative != b.isNegative)

def div : Binary64 → Binary64 → Binary64
  | .finite s m e, .finite t n f =>
    if n = 0 then
      if m = 0 then .nan else .infinite (s != t)
    else
      let r := scale m n (f - e)
      round (s != t) r.1 r.2
  | .nan, _ => .nan
  | _, .nan => .nan
  | .finite s _ _, .infinite t => zero (s != t)
  | .infinite s, .finite t _ _ => .infinite (s != t)
  | .infinite _, .infinite _ => .nan

/-- The sum of two numbers of the same sign or of unlike size; a sum of zero is positive unless
both terms are negative. -/
def add : Binary64 → Binary64 → Binary64
  | .finite s m e, .finite t n f =>
    let low := min e f
    let x : Int := m * Nat.pow 2 (e - low).toNat
    let y : Int := n * Nat.pow 2 (f - low).toNat
    let sum := (if s then -x else x) + (if t then -y else y)
    if sum = 0 then zero (s && t)
    else
      let r := ratio sum.natAbs low
      round (sum < 0) r.1 r.2
  | .nan, _ => .nan
  | _, .nan => .nan
  | .infinite s, .infinite t => if s = t then .infinite s else .nan
  | .infinite s, _ => .infinite s
  | _, .infinite t => .infinite t

/-- The natural nearest to the magnitude of a finite number, a half going up. -/
def nearestNat : Binary64 → Option Nat
  | .finite _ m e =>
    let r := ratio m e
    some ((2 * r.1 + r.2) / (2 * r.2))
  | _ => none

end Binary64

end BrowserScript
