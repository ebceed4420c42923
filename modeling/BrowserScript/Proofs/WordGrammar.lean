import BrowserScript.Proofs.QuotedWords

/-!
# The grammar of a line

A word is written in segments: plain characters, characters behind a backslash, and runs in single
or double quotes.  A row is words with blanks between them.  A line is a row, perhaps with a comment
behind it, or it breaks off behind a row: in a backslash that takes no character, or in a quote that
is never closed.  The reader of lines stands at one place at a time, and what it has read of the
current word leads to that place.  From this it follows that it finds, for every line, the one way
in which the grammar gives it.
-/

namespace BrowserScript.Words

inductive Inner where
  | plain (c : Char) (h : c ≠ '"' ∧ c ≠ '\\')
  /-- A backslash with the character that it takes. -/
  | escape (c : Char)

inductive Segment where
  | plain (c : Char) (h : isPlain c = true)
  /-- A backslash with the character that it takes. -/
  | escape (c : Char)
  | single (cs : List Char) (h : '\'' ∉ cs)
  | double (body : List Inner)

namespace Inner

def spelling : Inner → List Char
  | .plain c _ => [c]
  | .escape c => ['\\', c]

/-- What it stands for: a backslash is dropped before a double quote or another backslash only. -/
def value : Inner → List Char
  | .plain c _ => [c]
  | .escape c => if c = '"' ∨ c = '\\' then [c] else ['\\', c]

end Inner

namespace Segment

def spelling : Segment → List Char
  | .plain c _ => [c]
  | .escape c => ['\\', c]
  | .single cs _ => '\'' :: (cs ++ ['\''])
  | .double body => '"' :: (body.flatMap Inner.spelling ++ ['"'])

/-- What a segment stands for: its quotes and an unquoted backslash are dropped. -/
def value : Segment → List Char
  | .plain c _ => [c]
  | .escape c => [c]
  | .single cs _ => cs
  | .double body => body.flatMap Inner.value

end Segment

def spell (segments : List Segment) : List Char := segments.flatMap Segment.spelling

def valueOf (segments : List Segment) : String := String.ofList (segments.flatMap Segment.value)

/-- Characters that write words, with blanks between them and perhaps around them. -/
inductive Row : List Char → List String → Prop
  | nil : Row [] []
  | blank {b : Char} {row : List Char} {words : List String} (hb : Text.isBlank b = true)
    (h : Row row words) : Row (b :: row) words
  | last {segments : List Segment} (hne : segments ≠ []) : Row (spell segments) [valueOf segments]
  | word {segments : List Segment} {b : Char} {row : List Char} {words : List String}
    (hne : segments ≠ []) (hb : Text.isBlank b = true) (h : Row row words) :
    Row (spell segments ++ b :: row) (valueOf segments :: words)

inductive OpenQuote : List Char → Prop
  | single {cs : List Char} (h : '\'' ∉ cs) : OpenQuote ('\'' :: cs)
  | double (body : List Inner) : OpenQuote ('"' :: body.flatMap Inner.spelling)
  /-- The backslash takes the end of the line. -/
  | doubleEscaped (body : List Inner) : OpenQuote ('"' :: (body.flatMap Inner.spelling ++ ['\\']))

/-- What the grammar says of a line: its words, or why it has none. -/
inductive Reads : List Char → Except WordsError (List String) → Prop
  | row {row : List Char} {words : List String} (h : Row row words) : Reads row (.ok words)
  | comment {row : List Char} {words : List String} (h : Row row words) (rest : List Char) :
    Reads (row ++ '#' :: rest) (.ok words)
  | trailing {row : List Char} {words : List String} (h : Row row words) :
    Reads (row ++ ['\\']) (.error .trailingEscape)
  | unclosed {row quote : List Char} {words : List String} (h : Row row words)
    (hquote : OpenQuote quote) : Reads (row ++ quote) (.error .unclosedQuote)

/-- The characters of the current word that lead to a place. -/
inductive Leads : List Char → WordsPlace → Prop
  | between : Leads [] .between
  | plain {segments : List Segment} (hne : segments ≠ []) :
    Leads (spell segments) (.plain (valueOf segments))
  | escaped (segments : List Segment) :
    Leads (spell segments ++ ['\\']) (.escaped (valueOf segments))
  | single (segments : List Segment) {cs : List Char} (h : '\'' ∉ cs) :
    Leads (spell segments ++ '\'' :: cs) (.single (valueOf segments ++ String.ofList cs))
  | double (segments : List Segment) (body : List Inner) :
    Leads (spell segments ++ '"' :: body.flatMap Inner.spelling)
      (.double (valueOf segments ++ String.ofList (body.flatMap Inner.value)))
  | doubleEscaped (segments : List Segment) (body : List Inner) :
    Leads (spell segments ++ '"' :: (body.flatMap Inner.spelling ++ ['\\']))
      (.doubleEscaped (valueOf segments ++ String.ofList (body.flatMap Inner.value)))

/-! ### The reader keeps to the grammar -/

theorem spell_append (xs ys : List Segment) : spell (xs ++ ys) = spell xs ++ spell ys :=
  List.flatMap_append

theorem valueOf_append (xs ys : List Segment) : valueOf (xs ++ ys) = valueOf xs ++ valueOf ys := by
  simp [valueOf]

theorem push_eq_append (word : String) (c : Char) : word.push c = word ++ String.ofList [c] := by
  apply String.toList_injective
  simp

theorem Leads.closed (segments : List Segment) (s : Segment) :
    Leads (spell segments ++ s.spelling) (.plain (valueOf segments ++ String.ofList s.value)) := by
  have h : Leads _ _ := .plain (List.append_ne_nil_of_right_ne_nil segments (List.cons_ne_nil s []))
  simpa [spell_append, valueOf_append, spell, valueOf] using h

/-- Where a character leads that is neither blank nor the start of a comment. -/
theorem Leads.enter (segments : List Segment) {c : Char} (hblank : Text.isBlank c = false)
    (hc : c ≠ '#') : Leads (spell segments ++ [c]) (enter (valueOf segments) c) := by
  unfold Words.enter
  split
  · rename_i h
    subst h
    simpa using Leads.single segments (List.not_mem_nil (a := '\''))
  split
  · rename_i h
    subst h
    simpa using Leads.double segments []
  split
  · rename_i h
    subst h
    exact .escaped segments
  · rename_i hsingle hdouble hescape
    have hplain : isPlain c = true := isPlain_iff.mpr ⟨hblank, hc, hsingle, hdouble, hescape⟩
    rw [push_eq_append]
    exact .closed segments (.plain c hplain)

theorem Row.of_segments (segments : List Segment) : ∃ words, Row (spell segments) words := by
  cases segments with
  | nil => exact ⟨[], .nil⟩
  | cons s rest => exact ⟨_, .last (List.cons_ne_nil s rest)⟩

namespace Reads

variable {b : Char} {cs : List Char} {r : Except WordsError (List String)}

theorem blank (hb : Text.isBlank b = true) (h : Reads cs r) : Reads (b :: cs) r := by
  cases h with
  | row h => exact .row (.blank hb h)
  | comment h rest => exact .comment (.blank hb h) rest
  | trailing h => exact .trailing (.blank hb h)
  | unclosed h hquote => exact .unclosed (.blank hb h) hquote

theorem word {segments : List Segment} (hne : segments ≠ []) (hb : Text.isBlank b = true)
    (h : Reads cs r) : Reads (spell segments ++ b :: cs) (r.map (valueOf segments :: ·)) := by
  cases h with
  | row h => exact .row (.word hne hb h)
  | comment h rest =>
    rw [← List.cons_append, ← List.append_assoc]
    exact .comment (.word hne hb h) rest
  | trailing h =>
    rw [← List.cons_append, ← List.append_assoc]
    exact .trailing (.word hne hb h)
  | unclosed h hquote =>
    rw [← List.cons_append, ← List.append_assoc]
    exact .unclosed (.word hne hb h) hquote

/-- A line that breaks off in a quote, behind some segments of a word. -/
theorem breaksOff (segments : List Segment) {quote : List Char} (hquote : OpenQuote quote) :
    Reads (spell segments ++ quote) (.error .unclosedQuote) := by
  obtain ⟨words, hrow⟩ := Row.of_segments segments
  exact .unclosed hrow hquote

end Reads

theorem Leads.reads_end {text : List Char} {place : WordsPlace} (h : Leads text place) :
    Reads text (splitFrom place []) := by
  cases h with
  | between => exact .row .nil
  | plain hne => exact .row (.last hne)
  | escaped segments =>
    obtain ⟨words, hrow⟩ := Row.of_segments segments
    exact .trailing hrow
  | single segments h => exact .breaksOff segments (.single h)
  | double segments body => exact .breaksOff segments (.double body)
  | doubleEscaped segments body => exact .breaksOff segments (.doubleEscaped body)

/-- One character inside quotes or behind a backslash leads to the place that the reader goes to. -/
theorem Leads.escape (segments : List Segment) (c : Char) :
    Leads (spell segments ++ ['\\'] ++ [c]) (.plain ((valueOf segments).push c)) := by
  rw [push_eq_append, List.append_assoc]
  exact .closed segments (.escape c)

theorem Leads.closeSingle (segments : List Segment) {cs : List Char} (h : '\'' ∉ cs) :
    Leads (spell segments ++ '\'' :: cs ++ ['\''])
      (.plain (valueOf segments ++ String.ofList cs)) := by
  rw [List.append_assoc]
  exact .closed segments (.single cs h)

theorem Leads.closeDouble (segments : List Segment) (body : List Inner) :
    Leads (spell segments ++ '"' :: body.flatMap Inner.spelling ++ ['"'])
      (.plain (valueOf segments ++ String.ofList (body.flatMap Inner.value))) := by
  rw [List.append_assoc]
  exact .closed segments (.double body)

theorem Leads.inSingle (segments : List Segment) {cs : List Char} {c : Char} (h : '\'' ∉ cs)
    (hc : c ≠ '\'') :
    Leads (spell segments ++ '\'' :: cs ++ [c])
      (.single ((valueOf segments ++ String.ofList cs).push c)) := by
  have hcs : '\'' ∉ cs ++ [c] := by simp [h, hc.symm]
  have hnext := Leads.single segments hcs
  rw [String.ofList_append, ← String.append_assoc, ← push_eq_append] at hnext
  simpa using hnext

theorem Leads.inDouble (segments : List Segment) (body : List Inner) (last : Inner) :
    Leads (spell segments ++ '"' :: body.flatMap Inner.spelling ++ last.spelling)
      (.double (valueOf segments ++ String.ofList (body.flatMap Inner.value) ++
        String.ofList last.value)) := by
  simpa [String.append_assoc] using Leads.double segments (body ++ [last])

theorem afterEscape_eq (word : String) (c : Char) :
    afterEscape word c = word ++ String.ofList (Inner.escape c).value := by
  apply String.toList_injective
  by_cases hc : c = '"' ∨ c = '\\' <;> simp [afterEscape, Inner.value, hc]

/-- Wherever the reader stands, what was read of the current word and the rest of the line are read
together as the reader reads the rest. -/
theorem reads_of_leads {text : List Char} {place : WordsPlace} (h : Leads text place)
    (cs : List Char) : Reads (text ++ cs) (splitFrom place cs) := by
  induction cs generalizing text place with
  | nil => simpa using h.reads_end
  | cons c cs ih =>
    -- A character that leads to another place joins the current word.
    have hgo : ∀ {next : WordsPlace}, Leads (text ++ [c]) next →
        Reads (text ++ c :: cs) (splitFrom next cs) := by
      intro next hnext
      simpa using ih hnext
    cases h with
    | between =>
      rw [splitFrom]
      split
      · rename_i hblank
        exact .blank hblank (ih .between)
      split
      · rename_i hcomment
        rw [hcomment]
        exact .comment .nil cs
      · rename_i hblank hcomment
        exact hgo (.enter [] (Bool.of_not_eq_true hblank) hcomment)
    | plain hne =>
      rw [splitFrom]
      split
      · rename_i hblank
        exact .word hne hblank (ih .between)
      split
      · rename_i hcomment
        rw [hcomment]
        exact .comment (.last hne) cs
      · rename_i hblank hcomment
        exact hgo (.enter _ (Bool.of_not_eq_true hblank) hcomment)
    | escaped segments =>
      rw [splitFrom]
      exact hgo (.escape segments c)
    | single segments h =>
      rw [splitFrom]
      split
      · rename_i hc
        subst hc
        exact hgo (.closeSingle segments h)
      · rename_i hc
        exact hgo (.inSingle segments h hc)
    | double segments body =>
      rw [splitFrom]
      split
      · rename_i hc
        subst hc
        exact hgo (.closeDouble segments body)
      split
      · rename_i hc
        subst hc
        refine hgo ?_
        simpa using Leads.doubleEscaped segments body
      · rename_i hquote hescape
        rw [push_eq_append]
        exact hgo (.inDouble segments body (.plain c ⟨hquote, hescape⟩))
    | doubleEscaped segments body =>
      rw [splitFrom, afterEscape_eq]
      refine hgo ?_
      simpa [Inner.spelling] using Leads.inDouble segments body (.escape c)

/-! ### The reader finds every reading -/

theorem splitFrom_single_append {cs : List Char} (hcs : '\'' ∉ cs) (word : String)
    (rest : List Char) :
    splitFrom (.single word) (cs ++ rest) =
      splitFrom (.single (word ++ String.ofList cs)) rest := by
  induction cs generalizing word with
  | nil => simp
  | cons c cs ih =>
    obtain ⟨hc, hcs⟩ : c ≠ '\'' ∧ '\'' ∉ cs := by simpa [eq_comm] using hcs
    rw [List.cons_append, splitFrom, if_neg hc, ih hcs, push_append_ofList]

theorem splitFrom_double_append (word : String) (body : List Inner) (rest : List Char) :
    splitFrom (.double word) (body.flatMap Inner.spelling ++ rest) =
      splitFrom (.double (word ++ String.ofList (body.flatMap Inner.value))) rest := by
  induction body generalizing word with
  | nil => simp
  | cons inner body ih =>
    have hfirst : splitFrom (.double word)
          (inner.spelling ++ (body.flatMap Inner.spelling ++ rest)) =
        splitFrom (.double (word ++ String.ofList inner.value))
          (body.flatMap Inner.spelling ++ rest) := by
      cases inner with
      | plain c hc => simp [Inner.spelling, Inner.value, splitFrom, hc]
      | escape c => simp [Inner.spelling, splitFrom, afterEscape_eq]
    rw [List.flatMap_cons, List.append_assoc, hfirst, ih]
    simp [String.append_assoc]

theorem splitFrom_plain_segment (word : String) (s : Segment) (rest : List Char) :
    splitFrom (.plain word) (s.spelling ++ rest) =
      splitFrom (.plain (word ++ String.ofList s.value)) rest := by
  obtain ⟨hsingle, hdouble, hescape⟩ : Text.isBlank '\'' = false ∧ Text.isBlank '"' = false ∧
      Text.isBlank '\\' = false := by decide
  cases s with
  | plain c h =>
    simp [Segment.spelling, Segment.value, splitFrom, isPlain_iff.mp h, enter_of_isPlain h]
  | escape c =>
    simp [Segment.spelling, Segment.value, splitFrom, enter, hescape]
  | single cs h =>
    simp [Segment.spelling, Segment.value, splitFrom, enter, hsingle,
      splitFrom_single_append h]
  | double body =>
    simp [Segment.spelling, Segment.value, splitFrom, enter, hdouble,
      splitFrom_double_append]

theorem splitFrom_plain_spell (word : String) (segments : List Segment) (rest : List Char) :
    splitFrom (.plain word) (spell segments ++ rest) =
      splitFrom (.plain (word ++ valueOf segments)) rest := by
  induction segments generalizing word with
  | nil => simp [spell, valueOf]
  | cons s segments ih =>
    have hspell : spell (s :: segments) = s.spelling ++ spell segments := rfl
    rw [hspell, List.append_assoc, splitFrom_plain_segment, ih]
    simp [valueOf, String.append_assoc]

/-- A word is entered in the same way between words and inside an empty one. -/
theorem splitFrom_between_spell {segments : List Segment} (hne : segments ≠ []) (rest : List Char) :
    splitFrom .between (spell segments ++ rest) = splitFrom (.plain (valueOf segments)) rest := by
  have hstart : ∀ {c : Char} (cs : List Char), Text.isBlank c = false → c ≠ '#' →
      splitFrom .between (c :: cs) = splitFrom (.plain "") (c :: cs) := by
    intro c cs hblank hc
    simp [splitFrom, hblank, hc]
  obtain ⟨s, more, rfl⟩ := List.exists_cons_of_ne_nil hne
  have hsame : splitFrom .between (spell (s :: more) ++ rest) =
      splitFrom (.plain "") (spell (s :: more) ++ rest) := by
    cases s with
    | plain c h => exact hstart _ (isPlain_iff.mp h).1 (isPlain_iff.mp h).2.1
    | escape c => exact hstart _ (by decide) (by decide)
    | single cs h => exact hstart _ (by decide) (by decide)
    | double body => exact hstart _ (by decide) (by decide)
  rw [hsame, splitFrom_plain_spell, String.empty_append]

/-- Places outside quotes, with the word that the end of the line would finish there. -/
inductive Outside : WordsPlace → List String → Prop
  | between : Outside .between []
  | plain (word : String) : Outside (.plain word) [word]

namespace Outside

variable {place : WordsPlace} {pending : List String}

theorem splitFrom_nil (h : Outside place pending) : splitFrom place [] = .ok pending := by
  cases h <;> rfl

theorem splitFrom_comment (h : Outside place pending) (rest : List Char) :
    splitFrom place ('#' :: rest) = .ok pending := by
  have hblank : Text.isBlank '#' = false := by decide
  cases h <;> simp [splitFrom, hblank]

theorem exists_enter (h : Outside place pending) {c : Char} (hblank : Text.isBlank c = false)
    (hc : c ≠ '#') :
    ∃ word, ∀ rest, splitFrom place (c :: rest) = splitFrom (enter word c) rest := by
  cases h with
  | between => exact ⟨"", fun rest => by simp [splitFrom, hblank, hc]⟩
  | plain word => exact ⟨word, fun rest => by simp [splitFrom, hblank, hc]⟩

theorem splitFrom_trailing (h : Outside place pending) :
    splitFrom place ['\\'] = .error .trailingEscape := by
  obtain ⟨word, henter⟩ := h.exists_enter (c := '\\') (by decide) (by decide)
  rw [henter]
  rfl

theorem splitFrom_openQuote (h : Outside place pending) {quote : List Char}
    (hquote : OpenQuote quote) : splitFrom place quote = .error .unclosedQuote := by
  cases hquote with
  | single hcs =>
    obtain ⟨word, henter⟩ := h.exists_enter (c := '\'') (by decide) (by decide)
    have hread := splitFrom_single_append hcs word []
    rw [List.append_nil] at hread
    rw [henter]
    exact hread
  | double body =>
    obtain ⟨word, henter⟩ := h.exists_enter (c := '"') (by decide) (by decide)
    have hread := splitFrom_double_append word body []
    rw [List.append_nil] at hread
    rw [henter]
    exact hread
  | doubleEscaped body =>
    obtain ⟨word, henter⟩ := h.exists_enter (c := '"') (by decide) (by decide)
    rw [henter]
    exact splitFrom_double_append word body ['\\']

end Outside

/-- Behind a row the reader stands outside quotes, with all words of the row but perhaps the last
one done. -/
theorem Row.splitFrom_append {row : List Char} {words : List String} (h : Row row words) :
    ∃ done place pending, Outside place pending ∧ words = done ++ pending ∧
      ∀ rest, splitFrom .between (row ++ rest) = (splitFrom place rest).map (done ++ ·) := by
  have hmap : ∀ (r : Except WordsError (List String)), r.map ([] ++ ·) = r := by
    rintro (_ | _) <;> rfl
  induction h with
  | nil => exact ⟨[], _, _, .between, rfl, fun rest => (hmap _).symm⟩
  | blank hb _ ih =>
    obtain ⟨done, place, pending, hplace, hwords, hrest⟩ := ih
    refine ⟨done, place, pending, hplace, hwords, fun rest => ?_⟩
    rw [List.cons_append, splitFrom, if_pos hb, hrest]
  | last hne =>
    refine ⟨[], _, _, .plain _, rfl, fun rest => ?_⟩
    rw [splitFrom_between_spell hne, hmap]
  | @word segments b row words hne hb _ ih =>
    obtain ⟨done, place, pending, hplace, rfl, hrest⟩ := ih
    refine ⟨valueOf segments :: done, place, pending, hplace, rfl, fun rest => ?_⟩
    rw [List.append_assoc, splitFrom_between_spell hne, List.cons_append, splitFrom, if_pos hb,
      hrest]
    cases splitFrom place rest <;> rfl

theorem splitFrom_of_reads {cs : List Char} {r : Except WordsError (List String)}
    (h : Reads cs r) : splitFrom .between cs = r := by
  cases h with
  | row h =>
    obtain ⟨done, place, pending, hplace, rfl, hrest⟩ := h.splitFrom_append
    rw [← List.append_nil cs, hrest, hplace.splitFrom_nil]
    rfl
  | comment h rest =>
    obtain ⟨done, place, pending, hplace, rfl, hrest⟩ := h.splitFrom_append
    rw [hrest, hplace.splitFrom_comment]
    rfl
  | trailing h =>
    obtain ⟨done, place, pending, hplace, -, hrest⟩ := h.splitFrom_append
    rw [hrest, hplace.splitFrom_trailing]
    rfl
  | unclosed h hquote =>
    obtain ⟨done, place, pending, hplace, -, hrest⟩ := h.splitFrom_append
    rw [hrest, hplace.splitFrom_openQuote hquote]
    rfl

/-- Every line is read by the grammar in exactly one way: as words, perhaps with a comment, or as a
row that breaks off in a backslash or in a quote.  The words of a line are what the grammar says. -/
theorem split_follows_grammar (line : String) (r : Except WordsError (List String)) :
    Reads line.toList r ↔ split line = r := by
  constructor
  · exact splitFrom_of_reads
  · rintro rfl
    exact reads_of_leads .between line.toList

example : split "x'' \"\" \"\\a\\\"\"\\ b#c" = .ok ["x", "", "\\a\" b"] := rfl

end BrowserScript.Words
