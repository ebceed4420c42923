import BrowserScript.Proofs.WordGrammar
import BrowserScript.Compile
import Mathlib.Data.List.TakeWhile

/-!
# Trimmed lines

A line is trimmed before it is split into words.  The blanks that are removed separate nothing:
those at the front stand before the first word, and those at the end behind the last one, in a
comment or in a quote that is never closed.  There is one exception.  If a backslash outside quotes
takes the first blank at the end, that blank belongs to the last word, and without it the backslash
takes nothing.  So the trimmed line has the same words as the line itself exactly if no blank at the
end is escaped.
-/

namespace BrowserScript

namespace Text

/-- Trimming removes blanks only. -/
theorem exists_eq_append_trimBlanks (cs : List Char) :
    ∃ lead tail, cs = lead ++ trimBlanks cs ++ tail ∧ (∀ c ∈ lead, isBlank c = true) ∧
      ∀ c ∈ tail, isBlank c = true := by
  refine ⟨cs.takeWhile isBlank, ((cs.dropWhile isBlank).reverse.takeWhile isBlank).reverse, ?_,
    fun c hc => List.mem_takeWhile_imp hc, fun c hc => ?_⟩
  · have hbody : cs.dropWhile isBlank =
        trimBlanks cs ++ ((cs.dropWhile isBlank).reverse.takeWhile isBlank).reverse := by
      rw [trimBlanks, ← List.reverse_append, List.takeWhile_append_dropWhile, List.reverse_reverse]
    rw [List.append_assoc, ← hbody, List.takeWhile_append_dropWhile]
  · exact List.mem_takeWhile_imp (List.mem_reverse.mp hc)

/-- Blanks behind a character that is not blank are removed, and so are those at the front. -/
theorem trimBlanks_append_blanks {c : Char} (hc : isBlank c = false) (cs : List Char)
    {tail : List Char} (htail : ∀ b ∈ tail, isBlank b = true) :
    trimBlanks (cs ++ c :: tail) = cs.dropWhile isBlank ++ [c] := by
  have hfront : (cs ++ c :: tail).dropWhile isBlank = cs.dropWhile isBlank ++ c :: tail := by
    rw [List.dropWhile_append]
    split
    · rename_i hcs
      simp [List.isEmpty_iff.mp hcs, hc]
    · rfl
  have hback : tail.reverse.dropWhile isBlank = [] := by
    simpa [List.dropWhile_eq_nil_iff] using htail
  simp [trimBlanks, hfront, List.dropWhile_append, hback, hc]

end Text

namespace Words

/-! ### Blanks around a reading -/

theorem Row.append_blank {row : List Char} {words : List String} (h : Row row words) {b : Char}
    (hb : Text.isBlank b = true) : Row (row ++ [b]) words := by
  induction h with
  | nil => exact .blank hb .nil
  | blank hfirst _ ih => exact .blank hfirst ih
  | last hne => exact .word hne hb .nil
  | word hne hfirst _ ih =>
    rw [List.append_assoc]
    exact .word hne hfirst ih

theorem Row.prepend_blanks {row : List Char} {words : List String} (h : Row row words)
    {lead : List Char} (hlead : ∀ b ∈ lead, Text.isBlank b = true) : Row (lead ++ row) words := by
  induction lead with
  | nil => exact h
  | cons b lead ih =>
    obtain ⟨hb, hlead⟩ := List.forall_mem_cons.mp hlead
    exact .blank hb (ih hlead)

/-- A blank closes no quote. -/
theorem OpenQuote.append_blank {quote : List Char} (h : OpenQuote quote) {b : Char}
    (hb : Text.isBlank b = true) : OpenQuote (quote ++ [b]) := by
  have hsingle : b ≠ '\'' := by
    rintro rfl
    exact absurd hb (by decide)
  have hinner : b ≠ '"' ∧ b ≠ '\\' := by
    constructor
    · rintro rfl
      exact absurd hb (by decide)
    · rintro rfl
      exact absurd hb (by decide)
  cases h with
  | @single cs hcs =>
    have hmore : '\'' ∉ cs ++ [b] := by simp [hcs, hsingle.symm]
    exact .single hmore
  | double body =>
    have hmore := OpenQuote.double (body ++ [.plain b hinner])
    rwa [List.flatMap_append] at hmore
  | doubleEscaped body =>
    have hmore := OpenQuote.double (body ++ [.escape b])
    rw [List.flatMap_append] at hmore
    rw [List.cons_append, List.append_assoc]
    exact hmore

/-- Only a backslash that takes nothing could take a blank behind the line. -/
theorem Reads.append_blank {cs : List Char} {r : Except WordsError (List String)} (h : Reads cs r)
    (hr : r ≠ .error .trailingEscape) {b : Char} (hb : Text.isBlank b = true) :
    Reads (cs ++ [b]) r := by
  cases h with
  | row h => exact .row (h.append_blank hb)
  | comment h rest =>
    rw [List.append_assoc]
    exact .comment h (rest ++ [b])
  | trailing h => exact absurd rfl hr
  | unclosed h hquote =>
    rw [List.append_assoc]
    exact .unclosed h (hquote.append_blank hb)

theorem Reads.append_blanks {cs : List Char} {r : Except WordsError (List String)} (h : Reads cs r)
    (hr : r ≠ .error .trailingEscape) {tail : List Char}
    (htail : ∀ b ∈ tail, Text.isBlank b = true) : Reads (cs ++ tail) r := by
  induction tail generalizing cs with
  | nil => simpa using h
  | cons b tail ih =>
    obtain ⟨hb, htail⟩ := List.forall_mem_cons.mp htail
    simpa using ih (h.append_blank hr hb) htail

theorem Reads.prepend_blanks {cs : List Char} {r : Except WordsError (List String)}
    (h : Reads cs r) {lead : List Char} (hlead : ∀ b ∈ lead, Text.isBlank b = true) :
    Reads (lead ++ cs) r := by
  induction lead with
  | nil => exact h
  | cons b lead ih =>
    obtain ⟨hb, hlead⟩ := List.forall_mem_cons.mp hlead
    exact .blank hb (ih hlead)

theorem reads_splitFrom (cs : List Char) : Reads cs (splitFrom .between cs) :=
  reads_of_leads .between cs

theorem splitFrom_prepend_blanks {lead : List Char} (hlead : ∀ b ∈ lead, Text.isBlank b = true)
    (cs : List Char) : splitFrom .between (lead ++ cs) = splitFrom .between cs :=
  splitFrom_of_reads ((reads_splitFrom cs).prepend_blanks hlead)

/-! ### Escaped blanks -/

/-- The first of the blanks at the end of a line stands behind a backslash that takes it. -/
def EscapesBlank (line : List Char) : Prop :=
  ∃ row words b tail, line = row ++ '\\' :: b :: tail ∧ Row row words ∧
    Text.isBlank b = true ∧ ∀ c ∈ tail, Text.isBlank c = true

namespace EscapesBlank

variable {line : List Char}

theorem splitFrom_trimBlanks (h : EscapesBlank line) :
    splitFrom .between (Text.trimBlanks line) = .error .trailingEscape := by
  obtain ⟨row, words, b, tail, rfl, hrow, hb, htail⟩ := h
  have htrim : Text.trimBlanks (row ++ '\\' :: b :: tail) =
      row.dropWhile Text.isBlank ++ ['\\'] :=
    Text.trimBlanks_append_blanks (by decide) row (List.forall_mem_cons.mpr ⟨hb, htail⟩)
  have hlead : ∀ c ∈ row.takeWhile Text.isBlank, Text.isBlank c = true :=
    fun c hc => List.mem_takeWhile_imp hc
  rw [htrim, ← splitFrom_prepend_blanks hlead, ← List.append_assoc,
    List.takeWhile_append_dropWhile]
  exact splitFrom_of_reads (.trailing hrow)

/-- The blank that is escaped belongs to the last word. -/
theorem exists_splitFrom (h : EscapesBlank line) :
    ∃ (words : List String) (word : String) (b : Char), Text.isBlank b = true ∧
      splitFrom .between line = .ok (words ++ [word.push b]) := by
  obtain ⟨row, words, b, tail, rfl, hrow, hb, htail⟩ := h
  obtain ⟨done, place, pending, hplace, -, hrest⟩ := hrow.splitFrom_append
  obtain ⟨word, henter⟩ := hplace.exists_enter (c := '\\') (by decide) (by decide)
  have hlast : splitFrom (.plain (word.push b)) tail = .ok [word.push b] := by
    cases tail with
    | nil => rfl
    | cons c tail =>
      obtain ⟨hc, htail⟩ := List.forall_mem_cons.mp htail
      have hnone := splitFrom_prepend_blanks htail []
      rw [List.append_nil] at hnone
      rw [splitFrom, if_pos hc, hnone]
      rfl
  refine ⟨done, word, b, hb, ?_⟩
  rw [hrest, henter]
  change (splitFrom (.plain (word.push b)) tail).map (done ++ ·) = _
  rw [hlast]
  rfl

end EscapesBlank

/-- A trimmed line that means something else has lost an escaped blank. -/
theorem escapesBlank_of_ne {line : List Char}
    (h : splitFrom .between (Text.trimBlanks line) ≠ splitFrom .between line) :
    EscapesBlank line := by
  obtain ⟨lead, tail, hline, hlead, htail⟩ := Text.exists_eq_append_trimBlanks line
  have hreads := reads_splitFrom (Text.trimBlanks line)
  have hlost : splitFrom .between (Text.trimBlanks line) = .error .trailingEscape := by
    by_contra hr
    have hwhole := (hreads.append_blanks hr htail).prepend_blanks hlead
    rw [← List.append_assoc, ← hline] at hwhole
    exact h (splitFrom_of_reads hwhole).symm
  rw [hlost] at hreads
  generalize hbody : Text.trimBlanks line = body at hreads
  cases hreads with
  | @trailing row words hrow =>
    rw [hbody] at hline
    cases tail with
    | nil =>
      -- Only blanks at the front were removed, which change nothing.
      rw [List.append_nil] at hline
      rw [hbody, hline, splitFrom_prepend_blanks hlead] at h
      exact absurd rfl h
    | cons b tail =>
      obtain ⟨hb, htail⟩ := List.forall_mem_cons.mp htail
      refine ⟨lead ++ row, words, b, tail, ?_, hrow.prepend_blanks hlead, hb, htail⟩
      rw [hline]
      simp

/-- Trimming a line keeps its words, and the reason why it has none, unless the first blank at the
end is escaped.  In that case the line has words, the last of which ends in that blank, and the
trimmed line has none. -/
theorem trimming_keeps_words (line : String) :
    (split (Text.trim line) = split line ↔ ¬ EscapesBlank line.toList) ∧
    (EscapesBlank line.toList → split (Text.trim line) = .error .trailingEscape ∧
      ∃ (words : List String) (word : String) (b : Char), Text.isBlank b = true ∧
        split line = .ok (words ++ [word.push b])) := by
  have hlost : EscapesBlank line.toList → split (Text.trim line) = .error .trailingEscape ∧
      ∃ (words : List String) (word : String) (b : Char), Text.isBlank b = true ∧
        split line = .ok (words ++ [word.push b]) := by
    intro h
    rw [split, Text.toList_trim]
    exact ⟨h.splitFrom_trimBlanks, h.exists_splitFrom⟩
  refine ⟨⟨fun hsame h => ?_, fun h => ?_⟩, hlost⟩
  · obtain ⟨htrimmed, words, word, b, -, hwords⟩ := hlost h
    rw [htrimmed, hwords] at hsame
    nomatch hsame
  · by_contra hne
    rw [split, split, Text.toList_trim] at hne
    exact h (escapesBlank_of_ne hne)

/-- A line that ends in an escaped space has words, but it does not compile. -/
theorem escaped_blank_is_lost :
    split "info done\\ " = .ok ["info", "done "] ∧
    split (Text.trim "info done\\ ") = .error .trailingEscape ∧
    (Compile.text Registry.standard ⟨"", [], []⟩ "main.ss" "info done\\ " ".").outcome =
      .error (.compile [⟨"main.ss", 1, .malformed "no escaped character"⟩]) := by
  decide +kernel

end Words

end BrowserScript
