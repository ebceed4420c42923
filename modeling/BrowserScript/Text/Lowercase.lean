import BrowserScript.Text.CaseTable

/-!
# Lower case

Lower-casing of a whole text.  A character goes to its single lower-case partner, with two
exceptions: the dotted capital I becomes an i followed by a combining dot, and a capital sigma
takes its final form where it ends a word.
-/

namespace BrowserScript.Text

def inRanges (table : List (Nat × Nat)) (c : Char) : Bool :=
  table.any fun r => r.1 ≤ c.toNat && c.toNat ≤ r.2

def isCased (c : Char) : Bool := inRanges casedRanges c

/-- Whether a character is skipped when the neighbours of a sigma are examined. -/
def isCaseIgnorable (c : Char) : Bool := inRanges caseIgnorableRanges c

def meetsCased (cs : List Char) : Bool :=
  ((cs.dropWhile isCaseIgnorable).head?.map isCased).getD false

def lowerChar (c : Char) : Char :=
  if c.toNat < 0x80 then c.toLower
  else match lowerRuns.find? (·.holds c.toNat) with
    | some r => Char.ofNat (c.toNat + r.shift).toNat
    | none => c

/-- The lower-case spelling of `c` between the characters `before` it, nearest first, and the
characters `after` it. -/
def lowerAt (before : List Char) (c : Char) (after : List Char) : List Char :=
  if c = 'Σ' then
    if meetsCased before && !meetsCased after then ['ς'] else ['σ']
  else if c = 'İ' then ['i', Char.ofNat 0x307]
  else [lowerChar c]

/-- Lower-cases the characters that follow `before`, which is held nearest first. -/
def lowerFrom (before : List Char) : List Char → List Char
  | [] => []
  | c :: rest => lowerAt before c rest ++ lowerFrom (c :: before) rest

def lower (s : String) : String :=
  String.ofList (lowerFrom [] s.toList)

def lowerAscii (s : String) : String :=
  String.ofList (s.toList.map Char.toLower)

def upperAscii (s : String) : String :=
  String.ofList (s.toList.map Char.toUpper)

def replaceChar (old new : Char) (s : String) : String :=
  String.ofList (s.toList.map fun c => if c = old then new else c)

@[simp]
theorem lowerFrom_nil (before : List Char) : lowerFrom before [] = [] := rfl

theorem lowerFrom_cons (before : List Char) (c : Char) (rest : List Char) :
    lowerFrom before (c :: rest) = lowerAt before c rest ++ lowerFrom (c :: before) rest := rfl

end BrowserScript.Text
