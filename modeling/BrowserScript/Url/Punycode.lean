/-!
# Punycode

Labels of any script spelled in ASCII letters, digits and hyphens.  The ASCII characters of a label
come first; each other character follows, in increasing order of code points, as the number of
steps from the one before it, where a step goes to the next place in the label or, after the last
place, to the next code point.  A number is written in base 36 with the least digit first; a digit
below a threshold ends it, and the thresholds follow the size of the numbers so far.
-/

namespace BrowserScript.Punycode

def digit (d : Nat) : Char := Char.ofNat (if d < 26 then 97 + d else 22 + d)

def digitValue? (c : Char) : Option Nat :=
  let n := c.toNat
  if 97 ≤ n ∧ n ≤ 122 then some (n - 97)
  else if 65 ≤ n ∧ n ≤ 90 then some (n - 65)
  else if 48 ≤ n ∧ n ≤ 57 then some (n - 22)
  else none

def threshold (position bias : Nat) : Nat := max 1 (min 26 (position - bias))

theorem threshold_pos (position bias : Nat) : 1 ≤ threshold position bias := by
  unfold threshold; omega

/-- Divides a number by 35 until it is small, with the position that goes with the result. -/
def scale (delta position : Nat) : Nat × Nat :=
  if 455 < delta then scale (delta / 35) (position + 36) else (delta, position)
termination_by delta
decreasing_by omega

/-- The bias after a number: `count` characters are placed, and `first` says that it was the
first number. -/
def adapt (delta count : Nat) (first : Bool) : Nat :=
  let damped := if first then delta / 700 else delta / 2
  let (small, position) := scale (damped + damped / count) 0
  position + 36 * small / (small + 38)

def digits (bias position n : Nat) : List Char :=
  let t := threshold position bias
  if n < t then [digit n]
  else digit (t + (n - t) % (36 - t)) :: digits bias (position + 36) ((n - t) / (36 - t))
termination_by n
decreasing_by
  have := threshold_pos position bias
  have := Nat.div_le_self (n - threshold position bias) (36 - threshold position bias)
  omega

/-- A label on its way into digits: the steps since the last placed character, the bias and the
number of placed characters. -/
structure Writing where
  output : List Char
  delta : Nat
  bias : Nat
  placed : Nat

/-- Passes a character of the label while the code point `n` is being placed. -/
def Writing.pass (basic n : Nat) (w : Writing) (c : Char) : Writing :=
  if c.toNat < n then { w with delta := w.delta + 1 }
  else if c.toNat = n then
    { output := w.output ++ digits w.bias 36 w.delta
      delta := 0
      bias := adapt w.delta (w.placed + 1) (w.placed == basic)
      placed := w.placed + 1 }
  else w

/-- Places the code points of a list, which are in increasing order and not below `n`. -/
def Writing.place (label : List Char) (basic : Nat) : List Nat → Nat → Writing → Writing
  | [], _, w => w
  | m :: rest, n, w =>
    let w := { w with delta := w.delta + (m - n) * (w.placed + 1) }
    let w := label.foldl (Writing.pass basic m) w
    Writing.place label basic rest (m + 1) { w with delta := w.delta + 1 }

def encode (label : List Char) : List Char :=
  let basic := label.filter (·.toNat < 0x80)
  let others := (label.filter (0x80 ≤ ·.toNat)).map Char.toNat
  let start : Writing := ⟨[], 0, 72, basic.length⟩
  let written := Writing.place label basic.length others.mergeSort.eraseDups 0x80 start
  basic ++ (if basic.isEmpty then [] else ['-']) ++ written.output

/-- Reads a number: its value with weights from `weight` on, added to `start`. -/
def number? (bias : Nat) :
    List Char → (position weight start : Nat) → Option (Nat × List Char)
  | [], _, _, _ => none
  | c :: rest, position, weight, start =>
    match digitValue? c with
    | none => none
    | some d =>
      let t := threshold position bias
      if d < t then some (start + d * weight, rest)
      else number? bias rest (position + 36) (weight * (36 - t)) (start + d * weight)

/-- A number takes at least one digit. -/
theorem length_lt_of_number? {bias : Nat} {cs rest : List Char} {position weight start n : Nat}
    (h : number? bias cs position weight start = some (n, rest)) : rest.length < cs.length := by
  induction cs generalizing position weight start with
  | nil => simp [number?] at h
  | cons c cs ih =>
    rw [number?] at h
    split at h
    · simp at h
    · dsimp only at h
      split at h
      · simp only [Option.some.injEq, Prod.mk.injEq] at h
        simp [← h.2]
      · have := ih h
        simp only [List.length_cons]
        omega

/-- Reads the numbers that place characters into a label, from the place `i` and the code point
`n` on. -/
def fill? (bias n i : Nat) (label : List Char) (cs : List Char) : Option (List Char) :=
  match cs with
  | [] => some label
  | c :: rest =>
    match h : number? bias (c :: rest) 36 1 i with
    | none => none
    | some (j, after) =>
      let count := label.length + 1
      let m := n + j / count
      let place := j % count
      if m.isValidChar then
        fill? (adapt (j - i) count (i == 0)) m (place + 1)
          (label.insertIdx place (Char.ofNat m)) after
      else none
termination_by cs.length
decreasing_by exact length_lt_of_number? h

/-- The label with a given spelling: the ASCII characters stand before the last hyphen, if any
do. -/
def decode? (cs : List Char) : Option (List Char) :=
  let tail := (cs.reverse.takeWhile (· != '-')).reverse
  let basic := cs.take (cs.length - tail.length - 1)
  if basic.all (·.toNat < 0x80) then fill? 72 0x80 0 basic (if basic.isEmpty then cs else tail)
  else none

end BrowserScript.Punycode
