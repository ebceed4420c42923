import BrowserScript.Words

/-!
# Writing words

Most characters stand for themselves in a word.  Every text can be written as one word of a line: in
double quotes, with a backslash before each double quote and each backslash.
-/

namespace BrowserScript

namespace Text

/-- A text that neither starts nor ends with a blank is not trimmed. -/
theorem trimBlanks_eq_self {first last : Char} (hfirst : isBlank first = false)
    (hlast : isBlank last = false) (cs : List Char) :
    trimBlanks (first :: (cs ++ [last])) = first :: (cs ++ [last]) := by
  simp [trimBlanks, hfirst, hlast]

end Text

namespace Words

def isPlain (c : Char) : Bool :=
  !Text.isBlank c && c != '#' && c != '\'' && c != '"' && c != '\\'

theorem isPlain_iff {c : Char} : isPlain c = true ↔
    Text.isBlank c = false ∧ c ≠ '#' ∧ c ≠ '\'' ∧ c ≠ '"' ∧ c ≠ '\\' := by
  simp [isPlain, and_assoc]

theorem enter_of_isPlain {c : Char} (h : isPlain c = true) (word : String) :
    enter word c = .plain (word.push c) := by
  simp [enter, isPlain_iff.mp h]

theorem push_append_ofList (word : String) (c : Char) (cs : List Char) :
    word.push c ++ String.ofList cs = word ++ String.ofList (c :: cs) := by
  apply String.toList_injective
  simp

theorem splitFrom_plain_append {cs : List Char} (hcs : cs.all isPlain = true) (word : String)
    (rest : List Char) :
    splitFrom (.plain word) (cs ++ rest) = splitFrom (.plain (word ++ String.ofList cs)) rest := by
  induction cs generalizing word with
  | nil => simp
  | cons c cs ih =>
    obtain ⟨hc, hcs⟩ : isPlain c = true ∧ cs.all isPlain = true := by simpa using hcs
    simp [splitFrom, isPlain_iff.mp hc, enter_of_isPlain hc, ih hcs, push_append_ofList]

theorem splitFrom_between_append {c : Char} {cs : List Char} (hc : isPlain c = true)
    (hcs : cs.all isPlain = true) (rest : List Char) :
    splitFrom .between (c :: cs ++ rest) = splitFrom (.plain (String.ofList (c :: cs))) rest := by
  have hstart : splitFrom .between (c :: cs ++ rest) =
      splitFrom (.plain ("".push c)) (cs ++ rest) := by
    simp [splitFrom, isPlain_iff.mp hc, enter_of_isPlain hc]
  rw [hstart, splitFrom_plain_append hcs, push_append_ofList]
  simp

/-- A word of plain characters that a blank ends. -/
theorem splitFrom_between_plain {c blank : Char} {cs : List Char} (hc : isPlain c = true)
    (hcs : cs.all isPlain = true) (hblank : Text.isBlank blank = true) (rest : List Char) :
    splitFrom .between (c :: cs ++ blank :: rest) =
      (splitFrom .between rest).map (String.ofList (c :: cs) :: ·) := by
  rw [splitFrom_between_append hc hcs]
  simp [splitFrom, hblank]

def quoteChars : List Char → List Char
  | [] => []
  | c :: rest =>
    if c = '"' ∨ c = '\\' then '\\' :: c :: quoteChars rest else c :: quoteChars rest

def quote (word : String) : String := String.ofList ('"' :: (quoteChars word.toList ++ ['"']))

theorem splitFrom_double_quoteChars (word : String) (cs rest : List Char) :
    splitFrom (.double word) (quoteChars cs ++ '"' :: rest) =
      splitFrom (.plain (word ++ String.ofList cs)) rest := by
  induction cs generalizing word with
  | nil => simp [quoteChars, splitFrom]
  | cons c cs ih =>
    by_cases hc : c = '"' ∨ c = '\\'
    · simp [quoteChars, hc, splitFrom, afterEscape, ih, push_append_ofList]
    · rw [not_or] at hc
      simp [quoteChars, hc, splitFrom, ih, push_append_ofList]

/-- A quoted text is read as one word. -/
theorem splitFrom_between_quote (word : String) (rest : List Char) :
    splitFrom .between ((quote word).toList ++ rest) = splitFrom (.plain word) rest := by
  have hblank : Text.isBlank '"' = false := by decide
  simp [quote, splitFrom, hblank, enter, splitFrom_double_quoteChars]

end Words

end BrowserScript
