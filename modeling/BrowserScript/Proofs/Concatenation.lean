import BrowserScript.Proofs.Inlining
import BrowserScript.Proofs.QuotedWords

/-!
# Texts one after the other

A text that follows another yields what it yields alone, some lines further down.  The numbers of
its own lines change, those of the lines of the files that it includes do not.  A name does not tell
the two apart, since a text may include a file of its own name; so each finding is located: it was
found in a line of the text itself or in an included file.

The spans of a finding show the line that includes a file, so they change for both.  They are not
part of an instruction or an error, and no scan looks at them.
-/

namespace BrowserScript

namespace Compile

/-! ### Findings without their spans -/

def Finding.bare : Finding → CompileError ⊕ Instruction
  | .instruction i => .inr i
  | .error e _ => .inl e

theorem instructions_eq_bare (findings : List Finding) :
    instructions findings = (findings.map Finding.bare).filterMap Sum.getRight? := by
  rw [instructions, List.filterMap_map]
  congr
  funext f
  cases f <;> rfl

theorem errors_eq_bare (findings : List Finding) :
    errors findings = (findings.map Finding.bare).filterMap Sum.getLeft? := by
  rw [errors, List.filterMap_map]
  congr
  funext f
  cases f <;> rfl

/-- Whether the file that a path names is read: it can be, and it is not open. -/
def enters (tree : FileTree) (site : Site) (target : String) : Bool :=
  match tree.resolve (Path.join site.base target) with
  | .error _ => false
  | .ok place => decide (place ∉ site.opened) && (tree.textAt place).isOk

/-- A file that is read is scanned inside the spans of the line. -/
theorem includeFile_of_enters {tree : FileTree} {site : Site} {target : String}
    (h : enters tree site target = true) :
    ∃ place text, ∀ scan spans line, includeFile tree scan { site with spans } line target =
      scan (Site.enter { site with spans } tree line target place) text := by
  unfold enters at h
  cases hplace : tree.resolve (Path.join site.base target) with
  | error reason => simp [hplace] at h
  | ok place =>
    cases htext : tree.textAt place with
    | error reason => simp [hplace, htext, Except.isOk, Except.toBool] at h
    | ok text =>
      have hnew : place ∉ site.opened := by
        simpa [hplace, htext, Except.isOk, Except.toBool] using h
      exact ⟨place, text, fun scan spans line => includeFile_of_text hplace htext rfl hnew⟩

/-- A file that is not read is reported in the line. -/
theorem includeFile_of_not_enters {tree : FileTree} {site : Site} {target : String}
    (h : enters tree site target = false) :
    ∃ fault, ∀ scan spans line, includeFile tree scan { site with spans } line target =
      Site.report { site with spans } line fault := by
  unfold enters at h
  unfold includeFile
  dsimp only
  cases hplace : tree.resolve (Path.join site.base target) with
  | error reason => exact ⟨_, fun _ _ _ => rfl⟩
  | ok place =>
    by_cases hopen : place ∈ site.opened
    · exact ⟨.recursiveInclude (Path.join site.base target), by simp [hopen]⟩
    · cases htext : tree.textAt place with
      | error reason =>
        exact ⟨.missingInclude (Path.join site.base target) reason.message, by simp [hopen, htext]⟩
      | ok text => simp [hplace, hopen, htext, Except.isOk, Except.toBool] at h

/-- The scan of a text finds the same inside whatever spans. -/
def IgnoresSpans (scan : Site → String → List Finding) : Prop :=
  ∀ (site : Site) (spans : List Log.Span) (text : String),
    (scan { site with spans } text).map Finding.bare = (scan site text).map Finding.bare

section Spans

variable {registry : Registry} {tree : FileTree} {scan : Site → String → List Finding}

theorem bare_includeFile (hscan : IgnoresSpans scan) (site : Site) (spans : List Log.Span)
    (line : Nat) (target : String) :
    (includeFile tree scan { site with spans } line target).map Finding.bare =
      (includeFile tree scan site line target).map Finding.bare := by
  cases henters : enters tree site target with
  | true =>
    obtain ⟨place, text, hfile⟩ := includeFile_of_enters henters
    rw [hfile scan spans, hfile scan site.spans]
    exact hscan (site.enter tree line target place) _ text
  | false =>
    obtain ⟨fault, hreport⟩ := includeFile_of_not_enters henters
    rw [hreport scan spans, hreport scan site.spans]
    rfl

theorem bare_statement (s : Statement) (site : Site) (spans : List Log.Span) (line : Nat) :
    (s.findings { site with spans } line).map Finding.bare =
      (s.findings site line).map Finding.bare := by
  cases s <;> rfl

theorem bare_scanLine (hscan : IgnoresSpans scan) (site : Site) (spans : List Log.Span)
    (line : Nat) (raw : String) :
    (scanLine registry tree scan { site with spans } line raw).map Finding.bare =
      (scanLine registry tree scan site line raw).map Finding.bare := by
  cases htargets : includeTargets? raw with
  | none => rw [scanLine_of_plain htargets, scanLine_of_plain htargets, bare_statement]
  | some targets =>
    rw [scanLine_of_include htargets, scanLine_of_include htargets, List.map_flatMap,
      List.map_flatMap]
    simp only [bare_includeFile hscan]

theorem bare_scanLines (hscan : IgnoresSpans scan) (site : Site) (spans : List Log.Span)
    (first : Nat) (lines : List String) :
    (scanLines registry tree scan { site with spans } first lines).map Finding.bare =
      (scanLines registry tree scan site first lines).map Finding.bare := by
  induction lines generalizing first with
  | nil => rfl
  | cons raw lines ih => simp only [scanLines, List.map_append, bare_scanLine hscan, ih]

theorem scanText_ignoresSpans (registry : Registry) (tree : FileTree) (depth : Nat) :
    IgnoresSpans (scanText registry tree depth) := by
  induction depth with
  | zero => exact fun _ _ _ => rfl
  | succ depth ih => exact fun site spans text => bare_scanLines ih site spans 1 _

end Spans

/-! ### Located findings -/

/-- A finding and whether it was found in a line of the text itself, not of an included file. -/
structure Located where
  isOwn : Bool
  finding : Finding

def Finding.later (count : Nat) : Finding → Finding
  | .instruction i => .instruction { i with line := i.line + count }
  | .error e spans => .error { e with line := e.line + count } spans

/-- What a located finding becomes if the lines of the text stand further down. -/
def Located.later (count : Nat) (l : Located) : Finding :=
  if l.isOwn then l.finding.later count else l.finding

def locateLine (registry : Registry) (tree : FileTree) (scan : Site → String → List Finding)
    (site : Site) (line : Nat) (raw : String) : List Located :=
  match includeTargets? raw with
  | none => (scanLine registry tree scan site line raw).map (⟨true, ·⟩)
  | some targets => targets.flatMap fun target =>
    (includeFile tree scan site line target).map (⟨!enters tree site target, ·⟩)

def locateLines (registry : Registry) (tree : FileTree) (scan : Site → String → List Finding)
    (site : Site) : Nat → List String → List Located
  | _, [] => []
  | first, raw :: rest =>
    locateLine registry tree scan site first raw ++
      locateLines registry tree scan site (first + 1) rest

def locateText (registry : Registry) (tree : FileTree) : Nat → Site → String → List Located
  | 0, _, _ => []
  | depth + 1, site, text =>
    locateLines registry tree (scanText registry tree depth) site 1 (Text.lines text)

section Located

variable {registry : Registry} {tree : FileTree} {scan : Site → String → List Finding}

theorem finding_locateLine (site : Site) (line : Nat) (raw : String) :
    (locateLine registry tree scan site line raw).map Located.finding =
      scanLine registry tree scan site line raw := by
  unfold locateLine
  cases htargets : includeTargets? raw with
  | none => simp [Function.comp_def]
  | some targets =>
    rw [scanLine_of_include htargets]
    simp [List.map_flatMap, Function.comp_def]

theorem finding_locateLines (site : Site) (first : Nat) (lines : List String) :
    (locateLines registry tree scan site first lines).map Located.finding =
      scanLines registry tree scan site first lines := by
  induction lines generalizing first with
  | nil => rfl
  | cons raw lines ih => simp only [locateLines, scanLines, List.map_append, finding_locateLine, ih]

/-- Locating changes nothing of what is found. -/
theorem finding_locateText (depth : Nat) (site : Site) (text : String) :
    (locateText registry tree depth site text).map Located.finding =
      scanText registry tree depth site text := by
  cases depth with
  | zero => rfl
  | succ depth => exact finding_locateLines site 1 _

theorem bare_later_statement (s : Statement) (site : Site) (line count : Nat) :
    (s.findings site (line + count)).map Finding.bare =
      ((s.findings site line).map (Finding.later count)).map Finding.bare := by
  cases s <;> rfl

/-- The line that includes a file moves only what is reported for the file itself. -/
theorem bare_later_includeFile (hscan : IgnoresSpans scan) (site : Site) (line count : Nat)
    (target : String) :
    (includeFile tree scan site (line + count) target).map Finding.bare =
      ((includeFile tree scan site line target).map fun f =>
        Located.later count ⟨!enters tree site target, f⟩).map Finding.bare := by
  cases henters : enters tree site target with
  | true =>
    obtain ⟨place, text, hfile⟩ := includeFile_of_enters henters
    rw [hfile scan site.spans, hfile scan site.spans]
    have hsame := hscan (site.enter tree line target place) (site.spansAt (line + count)) text
    simp only [Located.later, Bool.not_true, Bool.false_eq_true, if_false, List.map_id']
    exact hsame
  | false =>
    obtain ⟨fault, hreport⟩ := includeFile_of_not_enters henters
    rw [hreport scan site.spans, hreport scan site.spans]
    rfl

theorem bare_later_scanLine (hscan : IgnoresSpans scan) (site : Site) (line count : Nat)
    (raw : String) :
    (scanLine registry tree scan site (line + count) raw).map Finding.bare =
      ((locateLine registry tree scan site line raw).map (Located.later count)).map
        Finding.bare := by
  unfold locateLine
  cases htargets : includeTargets? raw with
  | none =>
    rw [scanLine_of_plain htargets, scanLine_of_plain htargets, bare_later_statement]
    simp [Located.later, Function.comp_def]
  | some targets =>
    rw [scanLine_of_include htargets, List.map_flatMap]
    simp only [bare_later_includeFile hscan, List.map_flatMap, List.map_map, Function.comp_def]

theorem bare_later_scanLines (hscan : IgnoresSpans scan) (site : Site) (first count : Nat)
    (lines : List String) :
    (scanLines registry tree scan site (first + count) lines).map Finding.bare =
      ((locateLines registry tree scan site first lines).map (Located.later count)).map
        Finding.bare := by
  induction lines generalizing first with
  | nil => rfl
  | cons raw lines ih =>
    have hrest := ih (first + 1)
    rw [Nat.add_right_comm] at hrest
    simp only [scanLines, locateLines, List.map_append, bare_later_scanLine hscan, hrest]

end Located

/-- Before another text, an ended text is scanned as if it stood alone. -/
theorem scanText_append (registry : Registry) (tree : FileTree) (depth : Nat) (site : Site)
    {text : String} (htext : Text.IsEnded text) (more : String) :
    (scanText registry tree depth site (text ++ more)).map Finding.bare =
      (scanText registry tree depth site text).map Finding.bare ++
        ((locateText registry tree depth site more).map
          (Located.later (Text.lines text).length)).map Finding.bare := by
  cases depth with
  | zero => rfl
  | succ depth =>
    have hlength : (Text.rows text).length = (Text.lines text).length := by
      simpa using congrArg List.length (Text.map_trim_rows text)
    have hsplit : scanText registry tree (depth + 1) site (text ++ more) =
        scanText registry tree (depth + 1) site text ++
          scanLines registry tree (scanText registry tree depth) site
            (1 + (Text.lines text).length) (Text.lines more) := by
      simp only [scanText, ← scanLines_congr _ (Text.map_trim_rows _)]
      rw [Text.rows_append htext, scanLines_append, hlength]
    rw [hsplit, List.map_append, bare_later_scanLines (scanText_ignoresSpans registry tree depth)]
    rfl

/-! ### Lines with one path -/

def includeLine (word : String) : String := "@include " ++ Words.quote word

theorem toList_includeLine (word : String) :
    (includeLine word).toList = '@' :: "include".toList ++ ' ' :: (Words.quote word).toList := by
  simp [includeLine]

theorem split_includeLine (word : String) :
    Words.split (includeLine word) = .ok ["@include", word] := by
  have hquote := Words.splitFrom_between_quote word []
  rw [List.append_nil] at hquote
  rw [Words.split, toList_includeLine,
    Words.splitFrom_between_plain (by decide) (by decide) (by decide), hquote]
  rfl

theorem trim_includeLine (word : String) : Text.trim (includeLine word) = includeLine word := by
  apply String.toList_injective
  have hends : ∃ cs, (includeLine word).toList = '@' :: (cs ++ ['"']) :=
    ⟨"include ".toList ++ '"' :: Words.quoteChars word.toList,
      by simp [toList_includeLine, Words.quote]⟩
  obtain ⟨cs, hcs⟩ := hends
  rw [Text.toList_trim, hcs, Text.trimBlanks_eq_self (by decide) (by decide)]

theorem includeTargets?_includeLine (word : String) :
    includeTargets? (includeLine word) = some [Escape.decode word] := by
  have hidle : isIdle (includeLine word) = false := by
    simp [isIdle, includeLine]
  have hname : Action.normalizeName "@include" = "@include" := by decide +kernel
  simp [includeTargets?, trim_includeLine, hidle, split_includeLine, hname]

/-- A line includes just one file, the one that a path names. -/
def IncludesOnly (raw target : String) : Prop := includeTargets? raw = some [target]

theorem exists_includesOnly {raw : String} {targets : List String}
    (h : includeTargets? raw = some targets) :
    ∃ singles, List.Forall₂ IncludesOnly singles targets := by
  obtain ⟨-, head, words, -, -, rfl⟩ := words_of_include h
  refine ⟨words.map includeLine, ?_⟩
  rw [List.forall₂_map_left_iff, List.forall₂_map_right_iff]
  exact List.forall₂_same.mpr fun word _ => includeTargets?_includeLine word

theorem scanLine_of_includesOnly {registry : Registry} {tree : FileTree}
    {scan : Site → String → List Finding} {site : Site} {line : Nat} {raw : String}
    {targets singles : List String} (h : includeTargets? raw = some targets)
    (hsingles : List.Forall₂ IncludesOnly singles targets) :
    scanLine registry tree scan site line raw =
      singles.flatMap (scanLine registry tree scan site line) := by
  rw [scanLine_of_include h]
  clear h
  induction hsingles with
  | nil => rw [List.flatMap_nil, List.flatMap_nil]
  | cons hsingle _ ih =>
    rw [List.flatMap_cons, List.flatMap_cons, ih, scanLine_of_include hsingle]
    simp

theorem finish_eq_error_iff {findings : List Finding} {e : ScriptError} :
    (finish findings).outcome = .error e ↔
      errors findings ≠ [] ∧ e = .compile (errors findings) := by
  unfold finish
  cases hes : errors findings with
  | nil => simp
  | cons first rest => simp [eq_comm]

/-- Nothing that is found in a script hides, adds or moves anything else.  A text after an ended
text yields what it yields alone, with the lines of the first text before its own; a line that
includes several files yields what lines that include one of them each yield in its place; and a
compilation gives the instructions if there is no error, and all errors otherwise. -/
theorem findings_stay_apart (registry : Registry) (tree : FileTree) :
    (∀ depth site text more, Text.IsEnded text →
      (locateText registry tree depth site more).map Located.finding =
        scanText registry tree depth site more ∧
      instructions (scanText registry tree depth site (text ++ more)) =
        instructions (scanText registry tree depth site text) ++
          instructions ((locateText registry tree depth site more).map
            (Located.later (Text.lines text).length)) ∧
      errors (scanText registry tree depth site (text ++ more)) =
        errors (scanText registry tree depth site text) ++
          errors ((locateText registry tree depth site more).map
            (Located.later (Text.lines text).length))) ∧
    (∀ scan site line raw targets, includeTargets? raw = some targets →
      (∃ singles, List.Forall₂ IncludesOnly singles targets) ∧
      ∀ singles, List.Forall₂ IncludesOnly singles targets →
        scanLine registry tree scan site line raw =
          singles.flatMap (scanLine registry tree scan site line)) ∧
    ∀ name text base,
      (∀ is, (Compile.text registry tree name text base).outcome = .ok is ↔
        errors (textFindings registry tree name text base) = [] ∧
          instructions (textFindings registry tree name text base) = is) ∧
      ∀ e, (Compile.text registry tree name text base).outcome = .error e ↔
        errors (textFindings registry tree name text base) ≠ [] ∧
          e = .compile (errors (textFindings registry tree name text base)) := by
  refine ⟨?_, ?_, ?_⟩
  · intro depth site text more htext
    have happend := scanText_append registry tree depth site htext more
    refine ⟨finding_locateText depth site more, ?_, ?_⟩
    · rw [instructions_eq_bare, happend, List.filterMap_append, ← instructions_eq_bare,
        ← instructions_eq_bare]
    · rw [errors_eq_bare, happend, List.filterMap_append, ← errors_eq_bare, ← errors_eq_bare]
  · intro scan site line raw targets htargets
    exact ⟨exists_includesOnly htargets, fun singles => scanLine_of_includesOnly htargets⟩
  · intro name text base
    exact ⟨fun is => finish_eq_ok_iff, fun e => finish_eq_error_iff⟩

def loose : Site := ⟨"main", "", [], []⟩

theorem scanText_loose :
    scanText walking shared 2 loose "visit a\n" = [.instruction ⟨"main", 1, "visit", ["a"]⟩] := by
  have hlines : Text.lines "visit a\n" = ["visit a"] := by decide +kernel
  have haction : statement walking "visit a" = .action "visit" ["a"] := by decide +kernel
  obtain ⟨-, -, -, hvisit, -⟩ := shared_includeTargets?
  simp [scanText, hlines, scanLines, scanLine_of_plain hvisit, haction, Statement.findings, loose]

/-- The instruction is found in the included file, the error in the text itself. -/
theorem locateText_loose : locateText walking shared 2 loose "@include login\nback x" =
    [⟨false, .instruction ⟨"login", 1, "visit", ["a"]⟩⟩,
      ⟨true, .error ⟨"main", 2, .tooManyArguments 1 "back"⟩ (loose.spansAt 2)⟩] := by
  have hlines : Text.lines "@include login\nback x" = ["@include login", "back x"] ∧
      Text.lines "visit a" = ["visit a"] := by
    decide +kernel
  have hstatements : statement walking "visit a" = .action "visit" ["a"] ∧
      statement walking "back x" = .fault (.tooManyArguments 1 "back") := by
    decide +kernel
  have hplain : includeTargets? "back x" = none := by decide +kernel
  obtain ⟨-, hatLogin, -⟩ := shared_resolve
  obtain ⟨-, hlogin, -⟩ := shared_text
  obtain ⟨-, -, hone, hvisit, -⟩ := shared_includeTargets?
  have henters : enters shared ⟨"main", "", [], []⟩ "login" = true := by
    unfold enters
    simp [shared_path, hatLogin, hlogin, Except.isOk, Except.toBool]
  simp [locateText, hlines, locateLines, locateLine, hone, hplain, henters,
    includeFile_of_text hatLogin hlogin, shared_path, scanText, scanLines, scanLine_of_plain hvisit,
    scanLine_of_plain hplain, hstatements, Statement.findings, Site.enter, Site.report, loose]

theorem findings_stay_apart_loose :
    instructions (scanText walking shared 2 loose ("visit a\n" ++ "@include login\nback x")) =
      [⟨"main", 1, "visit", ["a"]⟩, ⟨"login", 1, "visit", ["a"]⟩] ∧
    errors (scanText walking shared 2 loose ("visit a\n" ++ "@include login\nback x")) =
      [⟨"main", 3, .tooManyArguments 1 "back"⟩] ∧
    ∃ singles, List.Forall₂ IncludesOnly singles ["login", "walk"] ∧
      ∀ scan, scanLine walking shared scan loose 1 "@include login walk" =
        singles.flatMap (scanLine walking shared scan loose 1) := by
  obtain ⟨happend, hinclude, -⟩ := findings_stay_apart walking shared
  have hlines : (Text.lines "visit a\n").length = 1 := by decide +kernel
  obtain ⟨-, his, hes⟩ := happend 2 loose "visit a\n" "@include login\nback x"
    (by simp [Text.IsEnded])
  rw [scanText_loose, locateText_loose, hlines] at his hes
  obtain ⟨htwo, -⟩ := shared_includeTargets?
  obtain ⟨singles, hsingles⟩ := exists_includesOnly htwo
  exact ⟨his, hes, singles, hsingles, fun scan => (hinclude scan loose 1 _ _ htwo).2 _ hsingles⟩

end Compile

end BrowserScript
