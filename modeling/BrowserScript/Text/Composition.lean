import BrowserScript.Text.CombiningTable
import BrowserScript.Text.Lowercase

/-!
# Composed text

The composed form of a text: marks stand in the order of their classes, and a character with a
mark is one character wherever there is one for both.  Hangul syllables are composed by
arithmetic.
-/

namespace BrowserScript.Text

def isNonspacing (c : Char) : Bool := inRanges nonspacingRanges c

def isMark (c : Char) : Bool := isNonspacing c || inRanges spacingRanges c

def combiningClass (c : Char) : Nat :=
  let n := c.toNat
  ((combiningRanges.find? fun r => r.1 ≤ n && n ≤ r.2.1).map (·.2.2)).getD 0

/-- The syllable of two Hangul letters, or of a syllable and a final letter. -/
def syllable? (a b : Char) : Option Char :=
  let m := a.toNat
  let n := b.toNat
  if 0x1100 ≤ m ∧ m ≤ 0x1112 ∧ 0x1161 ≤ n ∧ n ≤ 0x1175 then
    some (Char.ofNat (0xac00 + ((m - 0x1100) * 21 + (n - 0x1161)) * 28))
  else if 0xac00 ≤ m ∧ m ≤ 0xd7a3 ∧ (m - 0xac00) % 28 = 0 ∧ 0x11a8 ≤ n ∧ n ≤ 0x11c2 then
    some (Char.ofNat (m + (n - 0x11a7)))
  else none

/-- The letters of a syllable, or the syllable and final letter it is made of. -/
def syllableParts? (c : Char) : Option (Char × Char) :=
  let n := c.toNat - 0xac00
  if c.toNat < 0xac00 ∨ 0xd7a3 < c.toNat then none
  else if n % 28 = 0 then
    some (Char.ofNat (0x1100 + n / 588), Char.ofNat (0x1161 + n % 588 / 28))
  else some (Char.ofNat (c.toNat - n % 28), Char.ofNat (0x11a7 + n % 28))

def pair? (a b : Char) : Option Char :=
  match syllable? a b with
  | some c => some c
  | none => (compositionRows.filter (·.1 == b.toNat)).findSome? fun r =>
      (r.2.1.toList.zip r.2.2.toList).lookup a

def parts? (c : Char) : Option (Char × Char) :=
  if c.toNat < 0x80 then none
  else match syllableParts? c with
    | some p => some p
    | none => compositionRows.findSome? fun r =>
        ((r.2.2.toList.zip r.2.1.toList).lookup c).map fun a => (a, Char.ofNat r.1)

def decomposed : Nat → Char → List Char
  | 0, c => [c]
  | depth + 1, c =>
    match parts? c with
    | none => [c]
    | some (a, b) => decomposed depth a ++ [b]

/-- Puts a character of a class behind others, which are held backwards: a mark goes before marks
of greater classes. -/
def placeMark (c : Char) (k : Nat) : List Char → List Char
  | [] => [c]
  | d :: rest =>
    if 0 < k ∧ k < combiningClass d then d :: placeMark c k rest else c :: d :: rest

def ordered (cs : List Char) : List Char :=
  (cs.foldl (fun done c => placeMark c (combiningClass c) done) []).reverse

/-- Composes the characters after `start`, which some marks follow already, held backwards.  A
mark of no smaller class in between keeps a character from being composed. -/
def composeFrom (start : Char) (marks : List Char) : List Char → List Char
  | [] => start :: marks.reverse
  | c :: rest =>
    let k := combiningClass c
    let free := match marks with
      | [] => true
      | d :: _ => decide (combiningClass d < k)
    match if free then pair? start c else none with
    | some both => composeFrom both marks rest
    | none =>
      if k = 0 then start :: marks.reverse ++ composeFrom c [] rest
      else composeFrom start (c :: marks) rest

def composed (cs : List Char) : List Char :=
  match ordered (cs.flatMap (decomposed 4)) with
  | [] => []
  | c :: rest => composeFrom c [] rest

end BrowserScript.Text
