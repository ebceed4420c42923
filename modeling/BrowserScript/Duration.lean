import BrowserScript.Numeric.Shortest

/-!
# Durations

Lengths of time in whole nanoseconds, with the two ways they are shown: in the largest unit that
fits, exactly; and in seconds, as a binary64 number.
-/

namespace BrowserScript

/-- A length of time, in nanoseconds. -/
abbrev Duration := Nat

namespace Duration

def microsecond : Duration := 1000

def millisecond : Duration := 1000000

def second : Duration := 1000000000

def toMillis (d : Duration) : Nat := d / millisecond

/-- The digits of the fraction `part / unit`, a power of ten, without trailing zeros. -/
def fractionDigits (part unit : Nat) : List Char :=
  let ds := Nat.toDigits 10 (unit + part)
  ((ds.drop 1).reverse.dropWhile (· == '0')).reverse

/-- A duration in a given unit: the whole units, then the exact fraction if there is one. -/
def inUnit (d unit : Duration) (name : String) : String :=
  let fraction := fractionDigits (d % unit) unit
  let whole := toString (d / unit)
  (if fraction.isEmpty then whole else whole ++ "." ++ String.ofList fraction) ++ name

def shown (d : Duration) : String :=
  if second ≤ d then inUnit d second "s"
  else if millisecond ≤ d then inUnit d millisecond "ms"
  else if microsecond ≤ d then inUnit d microsecond "µs"
  else toString d ++ "ns"

def shownOption : Option Duration → String
  | none => "None"
  | some d => "Some(" ++ shown d ++ ")"

/-- A duration in seconds: the whole seconds plus the rounded fraction, rounded again. -/
def seconds (d : Duration) : Binary64 :=
  (Binary64.ofNat (d / second)).add
    ((Binary64.ofNat (d % second)).div (Binary64.ofNat second))

def text (d : Duration) : String :=
  NumberStyle.plain.text (seconds d) ++ "s"

end Duration

end BrowserScript
