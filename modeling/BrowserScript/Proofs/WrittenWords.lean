import BrowserScript.Proofs.Inlining
import BrowserScript.Proofs.QuotedWords
import BrowserScript.Run.Step

/-!
# Writing lists of arguments

A word of a script is read four times: its line is cut out of the text and trimmed, quotes are taken
off, escape sequences are decoded, and variables are replaced.  For each reading there is a way of
writing that it undoes: a word in double quotes, with escape sequences for backslashes and the ends
of lines, and with every dollar sign doubled.  Applied in the opposite order they write any list of
texts as the words of one line.
-/

namespace BrowserScript

namespace Text

theorem linesFrom_of_no_newline {line cs : List Char} (hcs : '\n' ∉ cs)
    (hne : line ≠ [] ∨ cs ≠ []) : linesFrom line cs = [line.reverse ++ cs] := by
  induction cs generalizing line with
  | nil => simp_all [linesFrom]
  | cons c cs ih =>
    obtain ⟨hc, hcs⟩ : c ≠ '\n' ∧ '\n' ∉ cs := by simpa [eq_comm] using hcs
    rw [linesFrom_of_ne hc, ih hcs (.inl (List.cons_ne_nil c line))]
    simp

/-- A text without a line feed is one line. -/
theorem lines_of_no_newline {s : String} (hs : '\n' ∉ s.toList) (hne : s ≠ "") : lines s = [s] := by
  have hchars : s.toList ≠ [] := by simpa using hne
  simp [lines, linesOf, linesFrom_of_no_newline hs (.inr hchars)]

end Text

/-! ### Dollar signs -/

namespace Template

def doubleChar (c : Char) : List Char := if c = '$' then ['$', '$'] else [c]

def double (s : String) : String := String.ofList (s.toList.flatMap doubleChar)

theorem ofChars_doubleChar (c : Char) (rest : List Char) :
    ofChars (doubleChar c ++ rest) =
      cons (if c = '$' then .dollar else .literal c) (ofChars rest) := by
  by_cases hc : c = '$'
  · subst hc
    simp only [doubleChar, if_true, List.cons_append, List.nil_append]
    rw [ofChars.eq_def]
    simp
  · simp [doubleChar, hc, ofChars_of_ne hc]

theorem join_double (vars : Variables) (cs : List Char) :
    join vars (ofChars (cs.flatMap doubleChar)).pieces (ofChars (cs.flatMap doubleChar)).closed =
      .ok (String.ofList cs) := by
  induction cs with
  | nil => simp [ofChars, join]
  | cons c cs ih =>
    have hvalue : value vars (if c = '$' then .dollar else .literal c) =
        .ok (String.ofList [c]) := by
      by_cases hc : c = '$'
      · rw [if_pos hc, hc]
        rfl
      · rw [if_neg hc]
        rfl
    rw [List.flatMap_cons, ofChars_doubleChar, cons, join, hvalue]
    simp [ih, Except.map]

/-- A text with doubled dollar signs stands for itself, whatever the variables hold. -/
theorem expand_double (vars : Variables) (s : String) : expand vars (double s) = .ok s := by
  simpa [expand, double] using join_double vars s.toList

end Template

namespace Run

theorem expandAll_double (vars : Variables) (words : List String) :
    expandAll vars (words.map Template.double) = .ok words := by
  induction words with
  | nil => rfl
  | cons word words ih =>
    have hword : expandText vars (Template.double word) = .ok word := by
      rw [expandText, Template.expand_double]
    rw [List.map_cons, expandAll, hword, ih]
    rfl

end Run

/-! ### Escape sequences -/

namespace Escape

/-- A character as an escape sequence if it is a backslash or belongs to the end of a line. -/
def encodeChar (c : Char) : List Char :=
  if c = '\\' then ['\\', '\\']
  else if c = '\n' then ['\\', 'n']
  else if c = '\r' then ['\\', 'r']
  else [c]

/-- A text on one line: escape sequences stand for backslashes, line feeds and carriage returns. -/
def encode (s : String) : String := String.ofList (s.toList.flatMap encodeChar)

theorem decodeChars_short {letter named : Char} (h : short? letter = some named)
    (rest : List Char) : decodeChars ('\\' :: letter :: rest) = named :: decodeChars rest := by
  apply decodeChars_of_some
  simp [sequence?, h]

theorem decodeChars_encodeChar (c : Char) (rest : List Char) :
    decodeChars (encodeChar c ++ rest) = c :: decodeChars rest := by
  unfold encodeChar
  split
  · rename_i hc
    rw [hc]
    exact decodeChars_short rfl rest
  split
  · rename_i hc
    rw [hc]
    exact decodeChars_short rfl rest
  split
  · rename_i hc
    rw [hc]
    exact decodeChars_short rfl rest
  · rename_i hc _ _
    exact decodeChars_of_ne hc rest

theorem decodeChars_encode (cs : List Char) : decodeChars (cs.flatMap encodeChar) = cs := by
  induction cs with
  | nil => simp
  | cons c cs ih => rw [List.flatMap_cons, decodeChars_encodeChar, ih]

theorem decode_encode (s : String) : decode (encode s) = s := by
  simp [decode, encode, decodeChars_encode]

theorem newline_not_mem_encode (s : String) : '\n' ∉ (encode s).toList := by
  intro h
  rw [encode, String.toList_ofList, List.mem_flatMap] at h
  obtain ⟨c, -, hc⟩ := h
  unfold encodeChar at hc
  split_ifs at hc with hbackslash hnewline hreturn
  · simp at hc
  · simp at hc
  · simp at hc
  · simp only [List.mem_singleton] at hc
    exact hnewline hc.symm

end Escape

/-! ### Words -/

namespace Words

theorem newline_not_mem_quoteChars {cs : List Char} (h : '\n' ∉ cs) : '\n' ∉ quoteChars cs := by
  induction cs with
  | nil => exact h
  | cons c cs ih =>
    obtain ⟨hc, hcs⟩ : c ≠ '\n' ∧ '\n' ∉ cs := by simpa [eq_comm] using h
    unfold quoteChars
    split
    · simp [ih hcs, hc.symm]
    · simp [ih hcs, hc.symm]

theorem newline_not_mem_quote {word : String} (h : '\n' ∉ word.toList) :
    '\n' ∉ (quote word).toList := by
  simp [quote, newline_not_mem_quoteChars h]

def quoteRest (words : List String) : List Char :=
  words.flatMap fun word => ' ' :: (quote word).toList

/-- Quoted words are read one by one. -/
theorem splitFrom_plain_quoteRest (first : String) (words : List String) :
    splitFrom (.plain first) (quoteRest words) = .ok (first :: words) := by
  induction words generalizing first with
  | nil => rfl
  | cons word words ih =>
    have hblank : Text.isBlank ' ' = true := by decide
    have hword : splitFrom .between ((quote word).toList ++ quoteRest words) =
        .ok (word :: words) := by
      rw [splitFrom_between_quote, ih]
    have hline : quoteRest (word :: words) = ' ' :: ((quote word).toList ++ quoteRest words) := by
      simp [quoteRest]
    rw [hline, splitFrom, if_pos hblank, hword]
    rfl

end Words

/-! ### Lines -/

theorem Registry.get?_info :
    standard.get? "info" = some ⟨"info", .info, messageParams⟩ := by
  decide +kernel

namespace Compile

/-- A text as one word of a line, to be decoded and expanded later. -/
def writtenWord (word : String) : String := Escape.encode (Template.double word)

def infoLine (words : List String) : String :=
  "info" ++ String.ofList (Words.quoteRest (words.map writtenWord))

theorem toList_infoLine (words : List String) :
    (infoLine words).toList = 'i' :: ("nfo".toList ++ Words.quoteRest (words.map writtenWord)) := by
  simp [infoLine]

theorem newline_not_mem_infoLine (words : List String) : '\n' ∉ (infoLine words).toList := by
  have hword : ∀ word, '\n' ∉ (Words.quote (writtenWord word)).toList := fun word =>
    Words.newline_not_mem_quote (Escape.newline_not_mem_encode _)
  simp [toList_infoLine, Words.quoteRest, hword]

theorem lines_infoLine (words : List String) : Text.lines (infoLine words) = [infoLine words] := by
  have hne : infoLine words ≠ "" := by simp [infoLine]
  exact Text.lines_of_no_newline (newline_not_mem_infoLine words) hne

theorem trim_infoLine (words : List String) : Text.trim (infoLine words) = infoLine words := by
  apply String.toList_injective
  rw [Text.toList_trim, toList_infoLine]
  rcases List.eq_nil_or_concat' words with rfl | ⟨init, last, rfl⟩
  · decide
  · have hends : ∃ cs, "nfo".toList ++ Words.quoteRest ((init ++ [last]).map writtenWord) =
        cs ++ ['"'] := by
      refine ⟨"nfo".toList ++ Words.quoteRest (init.map writtenWord) ++
        ' ' :: '"' :: Words.quoteChars (writtenWord last).toList, ?_⟩
      simp [Words.quoteRest, Words.quote]
    obtain ⟨cs, hcs⟩ := hends
    rw [hcs, Text.trimBlanks_eq_self (by decide) (by decide)]

theorem split_infoLine (words : List String) :
    Words.split (infoLine words) = .ok ("info" :: words.map writtenWord) := by
  rw [Words.split, toList_infoLine, ← List.cons_append,
    Words.splitFrom_between_append (by decide) (by decide)]
  exact Words.splitFrom_plain_quoteRest "info" _

theorem decode_writtenWord (words : List String) :
    (words.map writtenWord).map Escape.decode = words.map Template.double := by
  simp [writtenWord, Function.comp_def, Escape.decode_encode]

theorem statement_infoLine {registry : Registry} {action : Action}
    (haction : registry.get? "info" = some action) (hvariadic : action.hasVariadic = true)
    (words : List String) :
    includeTargets? (infoLine words) = none ∧
      statement registry (infoLine words) = .action "info" (words.map Template.double) := by
  have hidle : isIdle (infoLine words) = false := by
    simp [isIdle, infoLine]
  have hname : Action.normalizeName "info" = "info" := by decide +kernel
  have hexcess : action.excess? (words.map writtenWord) = none := by
    simp [Action.excess?, hvariadic]
  constructor
  · simp [includeTargets?, trim_infoLine, hidle, split_infoLine, hname]
  · simp only [statement, trim_infoLine, hidle, split_infoLine, hname, haction, hexcess,
      decode_writtenWord]
    rfl

theorem scanText_infoLine (tree : FileTree) (depth : Nat) (site : Site) (words : List String) :
    scanText Registry.standard tree (depth + 1) site (infoLine words) =
      [.instruction ⟨site.source, 1, "info", words.map Template.double⟩] := by
  obtain ⟨hplain, hstatement⟩ := statement_infoLine Registry.get?_info rfl words
  rw [scanText, lines_infoLine, scanLines, scanLines, List.append_nil, scanLine_of_plain hplain,
    hstatement]
  rfl

/-- Any list of texts can be written as the words of a line, and the line compiles to one
instruction.  Whatever the variables hold, its words stand for the texts of the list. -/
theorem written_words_survive (tree : FileTree) (name base : String) (words : List String) :
    ∃ i, (Compile.text Registry.standard tree name (infoLine words) base).outcome = .ok [i] ∧
      i.action = "info" ∧ ∀ vars, Run.expandAll vars i.args = .ok words := by
  refine ⟨⟨name, 1, "info", words.map Template.double⟩, ?_, rfl, ?_⟩
  · rw [Compile.text, textFindings, depthBound, scanText_infoLine, finish_eq_ok_iff]
    exact ⟨rfl, rfl⟩
  · intro vars
    exact Run.expandAll_double vars words

example : infoLine ["", "$5\n", "say \"hi\""] = "info \"\" \"$$5\\\\n\" \"say \\\"hi\\\"\"" := by
  decide

end Compile

end BrowserScript
