import BrowserScript.Escape
import BrowserScript.Json
import BrowserScript.Value.Reading

/-!
# Reading JSON

A reader for whole JSON texts.  Arrays and objects may be nested a hundred and twenty-seven deep,
of a repeated member the last one counts, and a number is read as at most nineteen or twenty
leading digits times a power of ten.
-/

namespace BrowserScript.Json

def isSpace (c : Char) : Bool := c == ' ' || c == '\n' || c == '\t' || c == '\r'

def skipSpace (cs : List Char) : List Char := cs.dropWhile isSpace

def maxSignificand : Nat := 18446744073709551615

/-- Appends digits to a significand as long as it fits, and gives the digits that do not. -/
def absorb (significand : Nat) : List Char → Nat × List Char
  | [] => (significand, [])
  | c :: rest =>
    let next := 10 * significand + (c.toNat - '0'.toNat)
    if next ≤ maxSignificand then absorb next rest else (significand, c :: rest)

def powerOfTen (n : Nat) : Binary64 := Binary64.ofDecimal false 1 n

/-- Multiplies or divides a number by a power of ten, in steps of `10 ^ 308` at most `steps + 1`
times; none if the result is too large. -/
def scaleTen : Nat → Binary64 → Int → Option Binary64
  | steps, x, exponent =>
    if exponent.natAbs ≤ 308 then
      if 0 ≤ exponent then
        let y := x.mul (powerOfTen exponent.toNat)
        if y.isFinite then some y else none
      else some (x.div (powerOfTen exponent.natAbs))
    else if x.isZero then some x
    else if 0 ≤ exponent then none
    else match steps with
      | 0 => some x
      | steps + 1 => scaleTen steps (x.div (powerOfTen 308)) (exponent + 308)

def float? (negative : Bool) (significand : Nat) (exponent : Int) : Option Json :=
  (scaleTen 4 (Binary64.ofNat significand) exponent).map fun x =>
    .number (if negative then x.neg else x)

def integerOf (negative : Bool) (n : Nat) : Json :=
  if negative then
    if n = 0 ∨ 9223372036854775808 < n then .number (Binary64.ofNat n).neg
    else .integer (-(n : Int))
  else .integer n

/-- The exponent part of a number: its sign and its digits. -/
structure ExponentPart where
  negative : Bool
  digits : List Char

def exponentPart : List Char → Option (Option ExponentPart × List Char)
  | c :: rest =>
    if c = 'e' ∨ c = 'E' then
      let (negative, body) := Reading.sign rest
      let digits := body.takeWhile Reading.isDigit
      if digits.isEmpty then none
      else some (some ⟨negative, digits⟩, body.dropWhile Reading.isDigit)
    else some (none, c :: rest)
  | [] => some (none, [])

def numberValue (negative : Bool) (whole : List Char) (fraction : Option (List Char))
    (power : Option ExponentPart) : Option Json :=
  let (lead, dropped) := absorb 0 whole
  match fraction, power with
  | none, none =>
    if dropped.isEmpty then some (integerOf negative lead)
    else float? negative lead dropped.length
  | _, _ =>
    let digits := fraction.getD []
    let (significand, ignored) := absorb lead digits
    let start : Int := (dropped.length : Int) - ((digits.length : Int) - (ignored.length : Int))
    match power with
    | none => float? negative significand start
    | some p =>
      let e : Int := Reading.numeral 0 p.digits
      if 2147483647 < e then
        if significand = 0 ∨ p.negative then some (.number (Binary64.zero negative)) else none
      else float? negative significand (if p.negative then start - e else start + e)

def number? (cs : List Char) : Option (Json × List Char) :=
  let (negative, body) := match cs with
    | '-' :: rest => (true, rest)
    | _ => (false, cs)
  let whole := body.takeWhile Reading.isDigit
  if whole.isEmpty || (whole.head? == some '0' && 1 < whole.length) then none
  else
    let after := body.dropWhile Reading.isDigit
    let fractionPart : Option (Option (List Char) × List Char) := match after with
      | '.' :: rest =>
        let digits := rest.takeWhile Reading.isDigit
        if digits.isEmpty then none else some (some digits, rest.dropWhile Reading.isDigit)
      | _ => some (none, after)
    fractionPart.bind fun (fraction, after) =>
      (exponentPart after).bind fun (power, after) =>
        (numberValue negative whole fraction power).map fun v => (v, after)

def unit16? : List Char → Option (Nat × List Char)
  | a :: b :: c :: d :: rest => (Escape.hexNumber? 0 [a, b, c, d]).map fun n => (n, rest)
  | _ => none

/-- The character that a `\u` sequence names: one unit, or two that form a surrogate pair. -/
def unicode? (cs : List Char) : Option (Char × List Char) :=
  (unit16? cs).bind fun (high, rest) =>
    if 0xd800 ≤ high ∧ high ≤ 0xdbff then
      match rest with
      | '\\' :: 'u' :: more =>
        (unit16? more).bind fun (low, rest) =>
          if 0xdc00 ≤ low ∧ low ≤ 0xdfff then
            some (Char.ofNat (0x10000 + (high - 0xd800) * 0x400 + (low - 0xdc00)), rest)
          else none
      | _ => none
    else (Escape.charOf? high).map fun c => (c, rest)

def escaped? : List Char → Option (Char × List Char)
  | [] => none
  | c :: rest =>
    if c = '"' ∨ c = '\\' ∨ c = '/' then some (c, rest)
    else if c = 'b' then some (Char.ofNat 8, rest)
    else if c = 'f' then some (Char.ofNat 12, rest)
    else if c = 'n' then some ('\n', rest)
    else if c = 'r' then some ('\r', rest)
    else if c = 't' then some ('\t', rest)
    else if c = 'u' then unicode? rest
    else none

def stringRest : Nat → String → List Char → Option (String × List Char)
  | 0, _, _ => none
  | _ + 1, _, [] => none
  | fuel + 1, acc, c :: rest =>
    if c = '"' then some (acc, rest)
    else if c = '\\' then (escaped? rest).bind fun (e, rest) => stringRest fuel (acc.push e) rest
    else if c.toNat < 0x20 then none
    else stringRest fuel (acc.push c) rest

def after? (word : List Char) (cs : List Char) : Option (List Char) :=
  if word.isPrefixOf cs then some (cs.drop word.length) else none

mutual

/-- Reads a value nested at most `depth` deep; every call takes a character of the text, so that
`fuel` beyond its length is never used up. -/
def value? : Nat → Nat → List Char → Option (Json × List Char)
  | 0, _, _ => none
  | fuel + 1, depth, cs =>
    match skipSpace cs with
    | [] => none
    | c :: rest =>
      if c = 'n' then (after? "ull".toList rest).map fun r => (.null, r)
      else if c = 't' then (after? "rue".toList rest).map fun r => (.bool true, r)
      else if c = 'f' then (after? "alse".toList rest).map fun r => (.bool false, r)
      else if c = '"' then
        (stringRest (rest.length + 1) "" rest).map fun (s, r) => (.string s, r)
      else if c = '[' then
        if depth ≤ 1 then none
        else match skipSpace rest with
          | ']' :: r => some (.array [], r)
          | _ => (items? fuel (depth - 1) rest).map fun (items, r) => (.array items, r)
      else if c = '\x7b' then
        if depth ≤ 1 then none
        else match skipSpace rest with
          | '\x7d' :: r => some (.object [], r)
          | _ => (members? fuel (depth - 1) [] rest).map fun (members, r) => (.object members, r)
      else number? (c :: rest)

def items? : Nat → Nat → List Char → Option (List Json × List Char)
  | 0, _, _ => none
  | fuel + 1, depth, cs =>
    (value? fuel depth cs).bind fun (item, rest) =>
      match skipSpace rest with
      | ']' :: r => some ([item], r)
      | ',' :: r => (items? fuel depth r).map fun (items, r) => (item :: items, r)
      | _ => none

/-- Reads the members of an object up to its end, after the members `seen`. -/
def members? : Nat → Nat → Dict Json → List Char → Option (Dict Json × List Char)
  | 0, _, _, _ => none
  | fuel + 1, depth, seen, cs =>
    match skipSpace cs with
    | '"' :: body =>
      (stringRest (body.length + 1) "" body).bind fun (name, rest) =>
        match skipSpace rest with
        | ':' :: rest =>
          (value? fuel depth rest).bind fun (value, rest) =>
            let seen := Dict.insert name value seen
            match skipSpace rest with
            | '\x7d' :: r => some (seen, r)
            | ',' :: r => members? fuel depth seen r
            | _ => none
        | _ => none
    | _ => none

end

def read? (s : String) : Option Json :=
  let cs := s.toList
  match value? (2 * cs.length + 2) 128 cs with
  | some (v, rest) => if (skipSpace rest).isEmpty then some v else none
  | none => none

end BrowserScript.Json
