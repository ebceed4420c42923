import BrowserScript.Text.Composition
import BrowserScript.Text.DirectionTable
import BrowserScript.Text.Pieces
import BrowserScript.Url.DomainTable
import BrowserScript.Url.Punycode

/-!
# Domain names

The ASCII form of a domain name.  Every character is replaced by its image, the text is composed,
and each label between points that is not ASCII is spelled in Punycode.  A name is refused if a
character is, if a label starts with a mark or has a joiner out of place, or if its labels mix
directions of writing.
-/

namespace BrowserScript.Domain

def isForbidden (c : Char) : Bool :=
  c.toNat ≤ 0x20 || c.toNat == 0x7f || "#/:<>?@[\\]^|%".toList.contains c

/-- What stands for a character in a domain name; none if the character is refused. -/
def image? (c : Char) : Option (List Char) :=
  let n := c.toNat
  if n < 0x80 then if isForbidden c then none else some [c.toLower]
  else if Text.inRanges refusedRanges c then none
  else if Text.inRanges ignoredRanges c then some []
  else match imageRows.find? fun r => r.1 ≤ n && n ≤ r.2.1 with
    | some r => (Text.pieces (· == ' ') r.2.2.toList)[n - r.1]?
    | none => some [c]

def isKept (c : Char) : Bool := image? c == some [c]

inductive Direction where
  | left
  | right
  | arabicDigit
  | europeanDigit
  | nonspacing
  | neutral
  deriving DecidableEq, Repr

def direction (c : Char) : Direction :=
  if c.toNat < 0x80 then
    if c.isAlpha then .left else if c.isDigit then .europeanDigit else .neutral
  else if Text.inRanges Text.rightToLeftRanges c then .right
  else if Text.isNonspacing c then .nonspacing
  else if Text.inRanges Text.neutralRanges c then .neutral
  else if Text.inRanges Text.arabicDigitRanges c then .arabicDigit
  else if Text.inRanges Text.europeanDigitRanges c then .europeanDigit
  else .left

def isBidirectional (label : List Char) : Bool :=
  label.any fun c => direction c == .right || direction c == .arabicDigit

/-- Whether a label may stand in a domain name of two directions: it goes one way, which its first
character sets, and ends in a letter or digit of that way. -/
def keepsDirection (label : List Char) : Bool :=
  let ds := label.map direction
  let ends (allowed : List Direction) : Bool :=
    match ds.reverse.dropWhile (· == .nonspacing) with
    | [] => false
    | d :: _ => allowed.contains d
  match ds with
  | [] => true
  | .left :: _ =>
    !ds.contains .right && !ds.contains .arabicDigit && ends [.left, .europeanDigit]
  | .right :: _ =>
    !ds.contains .left && !(ds.contains .arabicDigit && ds.contains .europeanDigit) &&
      ends [.right, .arabicDigit, .europeanDigit]
  | _ => false

def meets (ranges : List (Nat × Nat)) (cs : List Char) : Bool :=
  ((cs.dropWhile Text.isNonspacing).head?.map (Text.inRanges ranges)).getD false

/-- Whether the joiners of a label are in place after the characters `before`, held backwards: a
joiner follows a mark of class 9, and a non-joiner may also part two characters that would join. -/
def joinersFit (before : List Char) : List Char → Bool
  | [] => true
  | c :: rest =>
    let follows := (before.head?.map Text.combiningClass) == some 9
    let fits := match c.toNat with
      | 0x200d => follows
      | 0x200c => follows ||
          (meets Text.joinsAfterRanges before && meets Text.joinsBeforeRanges rest)
      | _ => true
    fits && joinersFit (c :: before) rest

def punycodeMark : List Char := "xn--".toList

def isSpellable (label : List Char) : Bool :=
  !punycodeMark.isPrefixOf label && label.all isKept && !(label.head?.map Text.isMark).getD false &&
    joinersFit [] label

/-- A label as it reads and as it is written. -/
structure Label where
  shown : List Char
  written : List Char

def isAscii (cs : List Char) : Bool := cs.all (·.toNat < 0x80)

/-- The label of composed characters.  Labels in Punycode of more than 2000 characters and others
beyond ASCII of more than 1000 are refused. -/
def Label.ofChars? (cs : List Char) : Option Label :=
  if punycodeMark.isPrefixOf cs then do
    let shown ← Punycode.decode? (cs.drop punycodeMark.length)
    if isAscii cs && !isAscii shown && Text.composed shown == shown && isSpellable shown &&
        cs.length ≤ 2000 + punycodeMark.length then
      some ⟨shown, cs⟩
    else none
  else if isAscii cs then some ⟨cs, cs⟩
  else if isSpellable cs && cs.length ≤ 1000 then some ⟨cs, punycodeMark ++ Punycode.encode cs⟩
  else none

def ofChars? (cs : List Char) : Option (List Char) := do
  let images ← cs.mapM image?
  let labels ← (Text.pieces (· == '.') (Text.composed images.flatten)).mapM Label.ofChars?
  if labels.any (isBidirectional ·.shown) && !labels.all (keepsDirection ·.shown) then none
  else some (['.'].intercalate (labels.map Label.written))

end BrowserScript.Domain
