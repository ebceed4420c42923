import BrowserScript.Text.Blank
import BrowserScript.Value

/-!
# Reading values

How a text is read as a value of a given type.  Every form covers the whole text.  Without a
declared type the forms are tried in turn: an integer, a number with a point, a boolean word, a
duration; what fits none of them stays a text.
-/

namespace BrowserScript.Reading

def isDigit (c : Char) : Bool := '0' ≤ c && c ≤ '9'

def numeral (start : Nat) : List Char → Nat
  | [] => start
  | c :: rest => numeral (10 * start + (c.toNat - '0'.toNat)) rest

def sign : List Char → Bool × List Char
  | '-' :: rest => (true, rest)
  | '+' :: rest => (false, rest)
  | cs => (false, cs)

def isNumeral (cs : List Char) : Bool := !cs.isEmpty && cs.all isDigit

def isInteger (cs : List Char) : Bool := isNumeral (sign cs).2

def minInteger : Int := -9223372036854775808

def maxInteger : Int := 9223372036854775807

def integer? (s : String) : Option Int :=
  let cs := s.toList
  if isInteger cs then
    let (negative, digits) := sign cs
    let n : Int := numeral 0 digits
    let value := if negative then -n else n
    if minInteger ≤ value ∧ value ≤ maxInteger then some value else none
  else none

structure DecimalForm where
  negative : Bool
  whole : List Char
  /-- The digits after the point, if there is a point. -/
  fraction : Option (List Char)

/-- The parts of an optionally signed text of digits with at most one point. -/
def decimalForm? (cs : List Char) : Option DecimalForm :=
  let (negative, body) := sign cs
  let whole := body.takeWhile isDigit
  match body.dropWhile isDigit with
  | [] => some ⟨negative, whole, none⟩
  | '.' :: fraction => if fraction.all isDigit then some ⟨negative, whole, some fraction⟩ else none
  | _ => none

def DecimalForm.number (d : DecimalForm) : Binary64 :=
  let fraction := d.fraction.getD []
  Binary64.ofDecimal d.negative (numeral 0 (d.whole ++ fraction)) (-(fraction.length : Int))

/-- Whether a text is a number that shows its type by a point with digits after it. -/
def isPointed (cs : List Char) : Bool :=
  match decimalForm? cs with
  | some ⟨_, _, some (_ :: _)⟩ => true
  | _ => false

/-- Whether a text is a decimal number: digits with or without a point, or a point with digits
after it. -/
def isDecimal (cs : List Char) : Bool :=
  match decimalForm? cs with
  | some ⟨_, whole, fraction⟩ => !whole.isEmpty || !(fraction.getD []).isEmpty
  | none => false

def decimal? (s : String) : Option Binary64 := (decimalForm? s.toList).map DecimalForm.number

def number? (s : String) : Option Binary64 := if isDecimal s.toList then decimal? s else none

def boolean? (s : String) : Option Bool :=
  let word := Text.lowerAscii s
  if ["true", "yes", "on", "1"].contains word then some true
  else if ["false", "no", "off", "0"].contains word then some false
  else none

/-- A letter without its case; the long s counts as an s. -/
def foldLetter (c : Char) : Char := if c = 'ſ' then 's' else c.toLower

def isBooleanWord (cs : List Char) : Bool :=
  ["true", "yes", "on", "false", "no", "off"].contains (String.ofList (cs.map foldLetter))

inductive TimeUnit where
  | milliseconds
  | seconds
  | minutes
  | hours
  deriving DecidableEq, Repr

def TimeUnit.nanoseconds : TimeUnit → Nat
  | .milliseconds => 1000000
  | .seconds => 1000000000
  | .minutes => 60000000000
  | .hours => 3600000000000

def unit? : List Char → Option (TimeUnit × List Char)
  | 'm' :: 's' :: rest => some (.milliseconds, rest)
  | 's' :: rest => some (.seconds, rest)
  | 'm' :: rest => some (.minutes, rest)
  | 'h' :: rest => some (.hours, rest)
  | _ => none

structure TimeGroup where
  whole : List Char
  fraction : List Char
  unit : TimeUnit
  deriving DecidableEq, Repr

/-- The group at the start of a text, and what follows: digits, or optional digits with a point
and more digits, and then a unit. -/
def timeGroup? (cs : List Char) : Option (TimeGroup × List Char) :=
  let whole := cs.takeWhile isDigit
  match cs.dropWhile isDigit with
  | '.' :: body =>
    let fraction := body.takeWhile isDigit
    if fraction.isEmpty then none
    else (unit? (body.dropWhile isDigit)).map fun u => (⟨whole, fraction, u.1⟩, u.2)
  | after =>
    if whole.isEmpty then none else (unit? after).map fun u => (⟨whole, [], u.1⟩, u.2)

theorem length_lt_of_unit? {cs rest : List Char} {u : TimeUnit} (h : unit? cs = some (u, rest)) :
    rest.length < cs.length := by
  unfold unit? at h
  split at h
  · cases h
    simp only [List.length_cons]
    omega
  · cases h
    exact Nat.lt_succ_self _
  · cases h
    exact Nat.lt_succ_self _
  · cases h
    exact Nat.lt_succ_self _
  · cases h

/-- A group takes at least one character. -/
theorem length_lt_of_timeGroup? {cs rest : List Char} {g : TimeGroup}
    (h : timeGroup? cs = some (g, rest)) : rest.length < cs.length := by
  have hdrop : (cs.dropWhile isDigit).length ≤ cs.length :=
    (List.dropWhile_suffix isDigit).length_le
  simp only [timeGroup?] at h
  split at h
  · rename_i body hbody
    split at h
    · simp at h
    · simp only [Option.map_eq_some_iff, Prod.mk.injEq] at h
      obtain ⟨⟨u, r⟩, hu, _, rfl⟩ := h
      have h1 := length_lt_of_unit? hu
      have h2 : (body.dropWhile isDigit).length ≤ body.length :=
        (List.dropWhile_suffix isDigit).length_le
      rw [hbody] at hdrop
      simp only [List.length_cons] at hdrop
      simp only at h1 ⊢
      omega
  · split at h
    · simp at h
    · simp only [Option.map_eq_some_iff, Prod.mk.injEq] at h
      obtain ⟨⟨u, r⟩, hu, _, rfl⟩ := h
      have h1 := length_lt_of_unit? hu
      simp only at h1 ⊢
      omega

def timeGroups? (cs : List Char) : Option (List TimeGroup) :=
  match h : timeGroup? cs with
  | none => none
  | some (g, []) => some [g]
  | some (g, c :: rest) =>
    have := length_lt_of_timeGroup? h
    (timeGroups? (c :: rest)).map (g :: ·)
termination_by cs.length

def maxNanoseconds : Nat := 18446744073709551615

/-- The nanoseconds of a group: the amount times the unit in binary64 numbers, a half going up. -/
def TimeGroup.nanoseconds? (g : TimeGroup) : Option Nat :=
  let amount := Binary64.ofDecimal false (numeral 0 (g.whole ++ g.fraction))
    (-(g.fraction.length : Int))
  (amount.mul (Binary64.ofNat g.unit.nanoseconds)).nearestNat.bind fun n =>
    if n ≤ maxNanoseconds then some n else none

def sumGroups (total : Nat) : List TimeGroup → Option Nat
  | [] => some total
  | g :: rest => g.nanoseconds?.bind fun n =>
    if total + n ≤ maxNanoseconds then sumGroups (total + n) rest else none

def isDuration (cs : List Char) : Bool := (timeGroups? cs).isSome

/-- The duration a text spells: the sum of its groups. -/
def duration? (s : String) : Option Duration :=
  (timeGroups? s.toList).bind (sumGroups 0)

def auto (s : String) : Value :=
  let cs := s.toList
  let integer := if isInteger cs then (integer? s).map Value.integer else none
  let number := if isPointed cs then (decimal? s).map Value.number else none
  let boolean := if isBooleanWord cs then (boolean? s).map Value.boolean else none
  let duration := if isDuration cs then (duration? s).map Value.duration else none
  (((integer.or number).or boolean).or duration).getD (.text s)

def value? (s : String) : ValueType → Option Value
  | .auto => some (auto s)
  | .text => some (.text s)
  | .integer => (integer? s).map .integer
  | .number => (number? s).map .number
  | .boolean => (boolean? s).map .boolean
  | .duration => (duration? s).map .duration
  | .key => (Key.read? s).map .key

/-- The parts of a text before and after the first occurrence of a character. -/
def cut? (mark : Char) (s : String) : Option (String × String) :=
  match s.toList.dropWhile (· != mark) with
  | [] => none
  | _ :: after => some (String.ofList (s.toList.takeWhile (· != mark)), String.ofList after)

inductive RangeError where
  /-- A part that is no duration. -/
  | notDuration (part : String)
  /-- The second duration is below the first. -/
  | reversed
  deriving DecidableEq, Repr

def durationRange (s : String) : Except RangeError (Duration × Duration) :=
  match cut? '-' s with
  | none => match duration? s with
    | some d => .ok (d, d)
    | none => .error (.notDuration s)
  | some (low, high) =>
    match duration? (Text.trim low), duration? (Text.trim high) with
    | none, _ => .error (.notDuration (Text.trim low))
    | some _, none => .error (.notDuration (Text.trim high))
    | some min, some max => if max < min then .error .reversed else .ok (min, max)

end BrowserScript.Reading
