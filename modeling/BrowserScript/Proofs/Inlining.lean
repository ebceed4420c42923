import BrowserScript.Proofs.Includes

/-!
# Inlining included files

The inlined text of a script has, in the place of each line that includes files, the inlined texts
of these files.  All other lines stay as they are, with the characters that end them.  An included
text gets a line feed at its end if it has none, so its last line stays a line of its own.

A script that compiles means the same as its inlined text.  The proof follows the scan: what a line
yields determines what the text inlined for it says, and texts that end with their last line can be
put one after the other.
-/

namespace BrowserScript

namespace Text

/-- The lines of a text with the characters that end them; `line` is held backwards. -/
def rowsFrom (line : List Char) : List Char → List (List Char)
  | [] => if line.isEmpty then [] else [line.reverse]
  | c :: rest =>
    if c = '\n' then (c :: line).reverse :: rowsFrom [] rest else rowsFrom (c :: line) rest

def rows (s : String) : List String := (rowsFrom [] s.toList).map String.ofList

theorem rowsFrom_newline (line rest : List Char) :
    rowsFrom line ('\n' :: rest) = ('\n' :: line).reverse :: rowsFrom [] rest := by
  simp [rowsFrom]

theorem rowsFrom_of_ne {c : Char} (h : c ≠ '\n') (line rest : List Char) :
    rowsFrom line (c :: rest) = rowsFrom (c :: line) rest := by
  simp [rowsFrom, h]

def IsEnded (s : String) : Prop := ∀ c ∈ s.toList.getLast?, c = '\n'

def ended (s : String) : String := if s.toList.getLast? = some '\n' then s else s ++ "\n"

theorem isEnded_ended (s : String) : IsEnded (ended s) := by
  unfold ended IsEnded
  split
  · rename_i h
    simp [h]
  · simp

theorem IsEnded.append {s t : String} (hs : IsEnded s) (ht : IsEnded t) : IsEnded (s ++ t) := by
  intro c hc
  rw [String.toList_append, List.getLast?_append] at hc
  cases hlast : t.toList.getLast? with
  | none => exact hs c (by simpa [hlast] using hc)
  | some d => exact ht c (by simpa [hlast] using hc)

theorem trimBlanks_append_blank {c : Char} (h : isBlank c = true) (cs : List Char) :
    trimBlanks (cs ++ [c]) = trimBlanks cs := by
  unfold trimBlanks
  rw [List.dropWhile_append]
  cases hrest : cs.dropWhile isBlank with
  | nil => simp [h]
  | cons d rest => simp [h]

theorem trimBlanks_endedLine (line : List Char) :
    trimBlanks (endedLine line) = trimBlanks line.reverse := by
  unfold endedLine
  split
  · rw [List.reverse_cons, trimBlanks_append_blank (by decide)]
  · rfl

theorem map_trimBlanks_rowsFrom (line cs : List Char) :
    (rowsFrom line cs).map trimBlanks = (linesFrom line cs).map trimBlanks := by
  induction cs generalizing line with
  | nil => rfl
  | cons c rest ih =>
    by_cases hc : c = '\n'
    · subst hc
      simp [rowsFrom_newline, linesFrom_newline, ih, trimBlanks_endedLine,
        trimBlanks_append_blank (show isBlank '\n' = true by decide)]
    · rw [rowsFrom_of_ne hc, linesFrom_of_ne hc, ih]

/-- The end of a line does not count for what the line says. -/
theorem map_trim_rows (s : String) : (rows s).map trim = (lines s).map trim := by
  have h := congrArg (List.map String.ofList) (map_trimBlanks_rowsFrom [] s.toList)
  simpa [rows, lines, linesOf, Function.comp_def, trim] using h

theorem rowsFrom_append {cs : List Char} (hcs : ∀ c ∈ cs.getLast?, c = '\n') {line : List Char}
    (hline : cs = [] → line = []) (rest : List Char) :
    rowsFrom line (cs ++ rest) = rowsFrom line cs ++ rowsFrom [] rest := by
  induction cs generalizing line with
  | nil => simp [hline, rowsFrom]
  | cons c cs ih =>
    have htail : ∀ d ∈ cs.getLast?, d = '\n' := by
      intro d hd
      cases cs with
      | nil => nomatch hd
      | cons e cs => exact hcs d (by simpa using hd)
    by_cases hc : c = '\n'
    · simp [rowsFrom, hc, ih htail]
    · have hmore : cs = [] → c :: line = [] := by
        rintro rfl
        exact absurd (hcs c rfl) hc
      simp [rowsFrom, hc, ih htail hmore]

theorem rows_append {s : String} (hs : IsEnded s) (t : String) :
    rows (s ++ t) = rows s ++ rows t := by
  simp [rows, rowsFrom_append hs]

/-- What has been read of a line can stand before the rest of the text. -/
theorem rowsFrom_reverse_append {line : List Char} (hline : '\n' ∉ line) (rest : List Char) :
    rowsFrom [] (line.reverse ++ rest) = rowsFrom line rest := by
  induction line generalizing rest with
  | nil => rfl
  | cons c line ih =>
    have hc : c ≠ '\n' := by
      rintro rfl
      exact hline List.mem_cons_self
    have htail : '\n' ∉ line := fun h => hline (List.mem_cons_of_mem c h)
    simp [ih htail, rowsFrom, hc]

theorem rows_open {line : List Char} (hline : '\n' ∉ line) (hne : line ≠ []) :
    rows (String.ofList line.reverse) = [String.ofList line.reverse] := by
  have h := rowsFrom_reverse_append hline []
  rw [List.append_nil] at h
  simp [rows, h, rowsFrom, hne]

theorem rows_closed {line : List Char} (hline : '\n' ∉ line) :
    rows (String.ofList ('\n' :: line).reverse) = [String.ofList ('\n' :: line).reverse] := by
  simp [rows, rowsFrom_reverse_append hline, rowsFrom]

/-- Ending the last line of a text changes no line but for its end. -/
theorem map_trimBlanks_rowsFrom_newline {cs : List Char} (hcs : cs.getLast? ≠ some '\n')
    {line : List Char} (hline : cs = [] → line ≠ []) :
    (rowsFrom line (cs ++ ['\n'])).map trimBlanks = (rowsFrom line cs).map trimBlanks := by
  induction cs generalizing line with
  | nil =>
    simp [rowsFrom, hline, trimBlanks_append_blank (show isBlank '\n' = true by decide)]
  | cons c cs ih =>
    have htail : cs.getLast? ≠ some '\n' := by
      cases cs with
      | nil => nofun
      | cons e cs => simpa using hcs
    by_cases hc : c = '\n'
    · have hmore : cs = [] → ([] : List Char) ≠ [] := by
        rintro rfl
        simp [hc] at hcs
      simp [rowsFrom, hc, ih htail hmore]
    · simp [rowsFrom, hc, ih htail (fun _ => List.cons_ne_nil c line)]

theorem map_trim_rows_ended {s : String} (hs : s ≠ "") :
    (rows (ended s)).map trim = (rows s).map trim := by
  unfold ended
  split
  · rfl
  · rename_i hlast
    have hne : s.toList = [] → ([] : List Char) ≠ [] := by
      intro hnil
      exact absurd (String.toList_eq_nil_iff.mp hnil) hs
    have h := congrArg (List.map String.ofList) (map_trimBlanks_rowsFrom_newline hlast hne)
    simpa [rows, Function.comp_def, trim] using h

end Text

namespace Compile

/-! ### Inlining -/

/-- The texts of some things one after the other, if each has one. -/
def concat? {α : Type} (textOf? : α → Option String) : List α → Option String
  | [] => some ""
  | x :: rest => do
    let text ← textOf? x
    let more ← concat? textOf? rest
    return text ++ more

theorem concat?_cons {α : Type} {textOf? : α → Option String} {x : α} {rest : List α}
    {text more : String} (htext : textOf? x = some text)
    (hmore : concat? textOf? rest = some more) :
    concat? textOf? (x :: rest) = some (text ++ more) := by
  simp [concat?, htext, hmore]

def inlineFile? (tree : FileTree) (inline? : String → String → Option String)
    (base target : String) : Option String :=
  match tree.resolve (Path.join base target) with
  | .error _ => none
  | .ok place =>
    match tree.textAt place with
    | .error _ => none
    | .ok text => (inline? (tree.pathOf (tree.above place)) text).map Text.ended

theorem inlineFile?_of_text {tree : FileTree} {inline? : String → String → Option String}
    {base path target text : String} {place : Place} (hplace : tree.resolve path = .ok place)
    (htext : tree.textAt place = .ok text) (hpath : Path.join base target = path) :
    inlineFile? tree inline? base target =
      (inline? (tree.pathOf (tree.above place)) text).map Text.ended := by
  unfold inlineFile?
  simp only [hpath, hplace, htext]

def inlineLine? (tree : FileTree) (inline? : String → String → Option String)
    (base row : String) : Option String :=
  match includeTargets? row with
  | none => some row
  | some targets => concat? (inlineFile? tree inline? base) targets

/-- The inlined text of a text whose includes start from the directory `base`, unless a file is
missing or files are included `depth` deep. -/
def inlineText? (tree : FileTree) : Nat → String → String → Option String
  | 0, _, _ => none
  | depth + 1, base, text =>
    concat? (inlineLine? tree (inlineText? tree depth) base) (Text.rows text)

def inlinedFile? (tree : FileTree) (path : String) : Option String :=
  match tree.read path with
  | .error _ => none
  | .ok text => inlineText? tree (depthBound tree) ((Path.parent? path).getD ".") text

/-! ### What findings and texts say -/

/-- The actions of a script with their words, wherever they stand. -/
def calls (is : List Instruction) : List (String × List String) :=
  is.map fun i => (i.action, i.args)

/-- Findings without an error, and the actions among them. -/
structure Yields (findings : List Finding) (acts : List (String × List String)) : Prop where
  errors : errors findings = []
  calls : calls (instructions findings) = acts

namespace Yields

variable {findings more : List Finding} {acts acts' : List (String × List String)}

theorem nil : Yields [] [] := ⟨rfl, rfl⟩

theorem append (h : Yields findings acts) (h' : Yields more acts') :
    Yields (findings ++ more) (acts ++ acts') := by
  constructor
  · have hleft := h.errors
    have hright := h'.errors
    unfold Compile.errors at hleft hright ⊢
    rw [List.filterMap_append, hleft, hright, List.append_nil]
  · rw [← h.calls, ← h'.calls]
    simp [instructions, Compile.calls]

theorem of_append (h : Yields (findings ++ more) acts) :
    ∃ first second, acts = first ++ second ∧ Yields findings first ∧ Yields more second := by
  have herrors := h.errors
  unfold Compile.errors at herrors
  rw [List.filterMap_append, List.append_eq_nil_iff] at herrors
  refine ⟨_, _, ?_, ⟨herrors.1, rfl⟩, ⟨herrors.2, rfl⟩⟩
  rw [← h.calls]
  simp [instructions, Compile.calls]

theorem not_report {site : Site} {line : Nat} {fault : CompileFault} :
    ¬ Yields (site.report line fault) acts := by
  intro h
  nomatch h.errors

end Yields

/-- What a statement says does not depend on where it stands. -/
theorem Statement.yields_congr {s : Statement} {site other : Site} {line line' : Nat}
    {acts : List (String × List String)} (h : Yields (s.findings site line) acts) :
    Yields (s.findings other line') acts := by
  cases s with
  | nothing => exact h
  | fault f => exact absurd h Yields.not_report
  | action name args => exact ⟨rfl, h.calls⟩

theorem finish_eq_ok_iff {findings : List Finding} {is : List Instruction} :
    (finish findings).outcome = .ok is ↔ errors findings = [] ∧ instructions findings = is := by
  unfold finish
  cases hes : errors findings with
  | nil => simp
  | cons e es => simp

section Trimming

variable {registry : Registry} {tree : FileTree} {scan : Site → String → List Finding} {site : Site}

theorem includeTargets?_congr {raw other : String} (h : Text.trim raw = Text.trim other) :
    includeTargets? raw = includeTargets? other := by
  unfold includeTargets?
  rw [h]

theorem includeTargets?_eq_none_congr {lines others : List String}
    (h : lines.map Text.trim = others.map Text.trim)
    (hothers : ∀ raw ∈ others, includeTargets? raw = none) :
    ∀ raw ∈ lines, includeTargets? raw = none := by
  intro raw hraw
  have htrim : Text.trim raw ∈ others.map Text.trim := by
    rw [← h]
    exact List.mem_map_of_mem hraw
  obtain ⟨other, hother, heq⟩ := List.mem_map.mp htrim
  rw [← includeTargets?_congr heq]
  exact hothers other hother

theorem scanLines_congr {lines others : List String} (first : Nat)
    (h : lines.map Text.trim = others.map Text.trim) :
    scanLines registry tree scan site first lines =
      scanLines registry tree scan site first others := by
  induction lines generalizing others first with
  | nil =>
    cases others with
    | nil => rfl
    | cons other others => nomatch h
  | cons raw lines ih =>
    cases others with
    | nil => nomatch h
    | cons other others =>
      obtain ⟨hraw, hlines⟩ := List.cons.inj h
      unfold scanLines
      rw [ih (first + 1) hlines, scanLine, scanLine, hraw]

theorem scanLines_append (first : Nat) (lines more : List String) :
    scanLines registry tree scan site first (lines ++ more) =
      scanLines registry tree scan site first lines ++
        scanLines registry tree scan site (first + lines.length) more := by
  induction lines generalizing first with
  | nil => rfl
  | cons raw lines ih =>
    rw [List.cons_append, scanLines, scanLines, ih, List.append_assoc, List.length_cons,
      Nat.add_right_comm, Nat.add_assoc]

end Trimming

/-- A text that includes nothing and has no fault, and its actions. -/
structure Says (registry : Registry) (text : String) (acts : List (String × List String)) :
    Prop where
  plain : ∀ row ∈ Text.rows text, includeTargets? row = none
  yields : ∀ tree scan site first,
    Yields (scanLines registry tree scan site first (Text.rows text)) acts

namespace Says

variable {registry : Registry} {text more : String} {acts acts' : List (String × List String)}

theorem empty : Says registry "" [] := by
  constructor
  · nofun
  · intros
    exact Yields.nil

theorem append (hended : Text.IsEnded text) (h : Says registry text acts)
    (h' : Says registry more acts') : Says registry (text ++ more) (acts ++ acts') := by
  constructor
  · intro row hrow
    rw [Text.rows_append hended] at hrow
    rcases List.mem_append.mp hrow with hrow | hrow
    · exact h.plain row hrow
    · exact h'.plain row hrow
  · intro tree scan site first
    rw [Text.rows_append hended, scanLines_append]
    exact (h.yields tree scan site first).append (h'.yields tree scan site _)

theorem congr (hrows : (Text.rows more).map Text.trim = (Text.rows text).map Text.trim)
    (h : Says registry text acts) : Says registry more acts := by
  constructor
  · exact includeTargets?_eq_none_congr hrows h.plain
  · intro tree scan site first
    rw [scanLines_congr first hrows]
    exact h.yields tree scan site first

theorem single {row : String} (hrows : Text.rows row = [row])
    (hplain : includeTargets? row = none) {site : Site} {line : Nat}
    (h : Yields ((statement registry row).findings site line) acts) :
    Says registry row acts := by
  constructor
  · intro other hother
    rw [hrows, List.mem_singleton] at hother
    rw [hother]
    exact hplain
  · intro tree scan site first
    rw [hrows, scanLines, scanLines, List.append_nil, scanLine_of_plain hplain]
    exact Statement.yields_congr h

theorem ended (h : Says registry text acts) : Says registry (Text.ended text) acts := by
  by_cases hempty : text = ""
  · -- An empty text gets a blank line.
    have hrows : Text.rows (Text.ended text) = ["\n"] := by
      rw [hempty]
      decide
    have hidle : isIdle (Text.trim "\n") = true := by decide
    constructor
    · intro row hrow
      rw [hrows, List.mem_singleton] at hrow
      simp [hrow, includeTargets?, hidle]
    · intro tree scan site first
      have hyields := h.yields tree scan site first
      rw [hempty] at hyields
      rw [hrows, scanLines, scanLine, if_pos hidle]
      exact hyields
  · exact h.congr (Text.map_trim_rows_ended hempty)

end Says

/-! ### Inlined lines -/

section Lines

variable {registry : Registry} {tree : FileTree} {scan : Site → String → List Finding}
  {inline? : String → String → Option String} {site : Site} {acts : List (String × List String)}

/-- Inlining files agrees with scanning them: a file that is scanned without an error has an inlined
text, and that says the same. -/
def Agrees (registry : Registry) (tree : FileTree) (scan : Site → String → List Finding)
    (inline? : String → String → Option String) (site : Site) : Prop :=
  ∀ line target acts, Yields (includeFile tree scan site line target) acts →
    ∃ whole, inlineFile? tree inline? site.base target = some whole ∧
      Text.IsEnded whole ∧ Says registry whole acts

theorem Agrees.targets (hfiles : Agrees registry tree scan inline? site) {line : Nat}
    {targets : List String} (h : Yields (targets.flatMap (includeFile tree scan site line)) acts) :
    ∃ whole, concat? (inlineFile? tree inline? site.base) targets = some whole ∧
      Text.IsEnded whole ∧ Says registry whole acts := by
  induction targets generalizing acts with
  | nil =>
    have hacts : acts = [] := h.calls.symm
    rw [hacts]
    exact ⟨"", rfl, nofun, Says.empty⟩
  | cons target targets ih =>
    rw [List.flatMap_cons] at h
    obtain ⟨first, second, rfl, hfirst, hsecond⟩ := h.of_append
    obtain ⟨text, htext, hended, hsays⟩ := hfiles line target first hfirst
    obtain ⟨more, hmore, hended', hsays'⟩ := ih hsecond
    exact ⟨text ++ more, concat?_cons htext hmore, hended.append hended',
      hsays.append hended hsays'⟩

theorem Agrees.line (hfiles : Agrees registry tree scan inline? site) {line : Nat} {row : String}
    (hrows : Text.rows row = [row])
    (h : Yields (scanLine registry tree scan site line row) acts) :
    ∃ whole, inlineLine? tree inline? site.base row = some whole ∧
      (Text.IsEnded row → Text.IsEnded whole) ∧ Says registry whole acts := by
  unfold inlineLine?
  cases htargets : includeTargets? row with
  | none =>
    rw [scanLine_of_plain htargets] at h
    exact ⟨row, rfl, id, .single hrows htargets h⟩
  | some targets =>
    rw [scanLine_of_include htargets] at h
    obtain ⟨whole, hwhole, hended, hsays⟩ := hfiles.targets h
    exact ⟨whole, hwhole, fun _ => hended, hsays⟩

theorem Agrees.lines (hfiles : Agrees registry tree scan inline? site) {cs line : List Char}
    (hline : '\n' ∉ line) {first : Nat}
    (h : Yields (scanLines registry tree scan site first
      ((Text.rowsFrom line cs).map String.ofList)) acts) :
    ∃ whole, concat? (inlineLine? tree inline? site.base)
        ((Text.rowsFrom line cs).map String.ofList) = some whole ∧
      Says registry whole acts := by
  induction cs generalizing line first acts with
  | nil =>
    by_cases hne : line = []
    · subst hne
      have hacts : acts = [] := h.calls.symm
      rw [hacts]
      exact ⟨"", rfl, Says.empty⟩
    · -- The last line need not be ended.
      have hrows : Text.rowsFrom line [] = [line.reverse] := by simp [Text.rowsFrom, hne]
      rw [hrows] at h ⊢
      obtain ⟨last, after, rfl, hlast, hafter⟩ := h.of_append
      obtain ⟨whole, hwhole, -, hsays⟩ := hfiles.line (Text.rows_open hline hne) hlast
      have hnothing : after = [] := hafter.calls.symm
      exact ⟨whole, by simp [concat?, hwhole], by simpa [hnothing] using hsays⟩
  | cons c cs ih =>
    by_cases hc : c = '\n'
    · subst hc
      rw [Text.rowsFrom_newline, List.map_cons] at h ⊢
      obtain ⟨head, tail, rfl, hhead, htail⟩ := h.of_append
      obtain ⟨text, htext, hended, hsays⟩ := hfiles.line (Text.rows_closed hline) hhead
      obtain ⟨more, hmore, hsays'⟩ := ih List.not_mem_nil htail
      have hended : Text.IsEnded text := hended (by simp [Text.IsEnded])
      exact ⟨text ++ more, concat?_cons htext hmore, hsays.append hended hsays'⟩
    · rw [Text.rowsFrom_of_ne hc] at h ⊢
      have hline : '\n' ∉ c :: line := by simp [hline, Ne.symm hc]
      exact ih hline h

end Lines

theorem agrees_inlineText? {registry : Registry} {tree : FileTree} {depth : Nat} {site : Site}
    (hopen : OpenFiles tree (depth + 1) site.opened)
    (ih : ∀ {site : Site} {text : String} {acts : List (String × List String)},
      OpenFiles tree depth site.opened → Yields (scanText registry tree depth site text) acts →
        ∃ whole, inlineText? tree depth site.base text = some whole ∧ Says registry whole acts) :
    Agrees registry tree (scanText registry tree depth) (inlineText? tree depth) site := by
  intro line target acts h
  rcases includeFile_cases tree (scanText registry tree depth) site line target with
    ⟨fault, -, hmissing⟩ | ⟨place, hplace, hopened | ⟨hnew, text, htext⟩⟩
  · rw [hmissing] at h
    exact absurd h Yields.not_report
  · rw [includeFile_of_open hplace hopened] at h
    exact absurd h Yields.not_report
  · rw [includeFile_of_text hplace htext rfl hnew] at h
    obtain ⟨whole, hwhole, hsays⟩ := ih (hopen.enter hnew ⟨text, htext⟩) h
    have hfile : inlineFile? tree (inlineText? tree depth) site.base target =
        some (Text.ended whole) := by
      rw [inlineFile?_of_text hplace htext rfl]
      exact congrArg (Option.map Text.ended) hwhole
    exact ⟨Text.ended whole, hfile, Text.isEnded_ended whole, hsays.ended⟩

/-- What a text yields is what its inlined text says. -/
theorem inlineText?_says {registry : Registry} {tree : FileTree} {depth : Nat} {site : Site}
    {text : String} {acts : List (String × List String)} (hopen : OpenFiles tree depth site.opened)
    (h : Yields (scanText registry tree depth site text) acts) :
    ∃ whole, inlineText? tree depth site.base text = some whole ∧ Says registry whole acts := by
  induction depth generalizing site text acts with
  | zero => exact absurd rfl hopen.depth_ne_zero
  | succ depth ih =>
    have hfiles := agrees_inlineText? hopen ih
    rw [scanText, ← scanLines_congr 1 (Text.map_trim_rows text)] at h
    exact hfiles.lines List.not_mem_nil h

theorem Says.outcome {registry : Registry} {text : String} {acts : List (String × List String)}
    (h : Says registry text acts) (tree : FileTree) (name base : String) :
    ∃ is, (Compile.text registry tree name text base).outcome = .ok is ∧ calls is = acts := by
  have hyields : Yields (textFindings registry tree name text base) acts := by
    rw [textFindings, depthBound, scanText, ← scanLines_congr 1 (Text.map_trim_rows text)]
    exact h.yields ..
  exact ⟨_, finish_eq_ok_iff.mpr ⟨hyields.errors, rfl⟩, hyields.calls⟩

/-- A script file that compiles has an inlined text.  The inlined text includes nothing, and
compiled under whatever name and in whatever directory, it yields the same actions with the same
words. -/
theorem inlined_file_compiles_alike {registry : Registry} {tree : FileTree} {path : String}
    {is : List Instruction} (h : (file registry tree path).outcome = .ok is) :
    ∃ whole, inlinedFile? tree path = some whole ∧
      (∀ raw ∈ Text.lines whole, includeTargets? raw = none) ∧
      ∀ name base, ∃ is', (Compile.text registry tree name whole base).outcome = .ok is' ∧
        calls is' = calls is := by
  rcases fileFindings_cases registry tree path with
    ⟨fault, hfault⟩ | ⟨place, text, hplace, htext, hfindings⟩
  · simp [file, hfault] at h
  · simp only [file, hfindings] at h
    obtain ⟨herrors, his⟩ := finish_eq_ok_iff.mp h
    have hopen : OpenFiles tree (depthBound tree) [place] := .single ⟨text, htext⟩
    obtain ⟨whole, hwhole, hsays⟩ := inlineText?_says hopen ⟨herrors, congrArg calls his⟩
    have hread : tree.read path = .ok text := by
      rw [FileTree.read, hplace]
      exact htext
    have hinlined : inlinedFile? tree path = some whole := by
      simpa only [inlinedFile?, hread] using hwhole
    have hplain := includeTargets?_eq_none_congr (Text.map_trim_rows whole).symm hsays.plain
    exact ⟨whole, hinlined, hplain, hsays.outcome tree⟩

def walking : Registry :=
  ⟨[("back", ⟨"back", .back, []⟩), ("visit", ⟨"visit", .visit, [.fixed "url" .text]⟩)]⟩

/-- A script that includes two files, of which the second includes the first as well; no file ends
its last line. -/
def shared : FileTree where
  base := "/scripts"
  entries :=
    [(["main"], .file "@include login walk\r\nback"), (["login"], .file "visit a"),
      (["walk"], .file "@include login")]

/-- A path that leads to a file in the top directory of a tree. -/
theorem resolve_of_top {tree : FileTree} {path name text : String}
    (hstart : tree.start (.inside tree.here) path = (.inside [], [name]))
    (htop : tree.isFolder (.inside []) = true) (hfile : tree.node? [name] = some (.file text))
    (hpath : path.toList.any (·.toNat == 0) = false ∧ path.isEmpty = false ∧
      path.utf8ByteSize ≤ FileTree.maxPathBytes)
    (hname : FileTree.IsPlainName name) : tree.resolve path = .ok (.inside [name]) := by
  refine FileTree.resolve_of_walk hpath hstart ?_
  rw [FileTree.maxLinks, FileTree.walk_plain htop hname hfile, FileTree.walk]
  rfl

theorem shared_resolve :
    shared.resolve "main" = .ok (.inside ["main"]) ∧
    shared.resolve "login" = .ok (.inside ["login"]) ∧
    shared.resolve "walk" = .ok (.inside ["walk"]) ∧
    shared.resolve "/scripts/login" = .ok (.inside ["login"]) := by
  refine ⟨?_, ?_, ?_, ?_⟩ <;>
    exact resolve_of_top (by decide +kernel) (by decide) rfl (by decide +kernel) (by decide +kernel)

theorem shared_text :
    shared.textAt (.inside ["main"]) = .ok "@include login walk\r\nback" ∧
    shared.textAt (.inside ["login"]) = .ok "visit a" ∧
    shared.textAt (.inside ["walk"]) = .ok "@include login" := ⟨rfl, rfl, rfl⟩

theorem shared_path :
    (Path.parent? "main").getD "." = "" ∧
    shared.pathOf (shared.above (.inside ["walk"])) = "/scripts" ∧
    Path.join "" "login" = "login" ∧ Path.join "" "walk" = "walk" ∧
    Path.join "/scripts" "login" = "/scripts/login" := by
  decide +kernel

theorem shared_includeTargets? :
    includeTargets? "@include login walk" = some ["login", "walk"] ∧
    includeTargets? "@include login walk\r\n" = some ["login", "walk"] ∧
    includeTargets? "@include login" = some ["login"] ∧
    includeTargets? "visit a" = none ∧ includeTargets? "back" = none := by
  decide +kernel

theorem file_shared : (file walking shared "main").outcome = .ok
    [⟨"login", 1, "visit", ["a"]⟩, ⟨"/scripts/login", 1, "visit", ["a"]⟩,
      ⟨"main", 2, "back", []⟩] := by
  have hlines : Text.lines "@include login walk\r\nback" = ["@include login walk", "back"] ∧
      Text.lines "visit a" = ["visit a"] ∧ Text.lines "@include login" = ["@include login"] := by
    decide +kernel
  have hactions : statement walking "visit a" = .action "visit" ["a"] ∧
      statement walking "back" = .action "back" [] := by
    decide +kernel
  obtain ⟨hatMain, hatLogin, hatWalk, hatAgain⟩ := shared_resolve
  obtain ⟨hmain, hlogin, hwalk⟩ := shared_text
  obtain ⟨htwo, -, hone, hvisit, hback⟩ := shared_includeTargets?
  simp [file, fileFindings, hatMain, hmain, show depthBound shared = 4 from rfl, scanText, hlines,
    scanLines, scanLine_of_include htwo, scanLine_of_include hone, scanLine_of_plain hvisit,
    scanLine_of_plain hback, includeFile_of_text hatLogin hlogin, includeFile_of_text hatWalk hwalk,
    includeFile_of_text hatAgain hlogin, Site.enter, shared_path, hactions, Statement.findings,
    finish, errors, instructions]

theorem inlinedFile?_shared : inlinedFile? shared "main" = some "visit a\nvisit a\nback" := by
  have hrows : Text.rows "@include login walk\r\nback" = ["@include login walk\r\n", "back"] ∧
      Text.rows "visit a" = ["visit a"] ∧ Text.rows "@include login" = ["@include login"] := by
    decide +kernel
  have hended : Text.ended "visit a" = "visit a\n" ∧ Text.ended "visit a\n" = "visit a\n" := by
    decide +kernel
  obtain ⟨hatMain, hatLogin, hatWalk, hatAgain⟩ := shared_resolve
  obtain ⟨hmain, hlogin, hwalk⟩ := shared_text
  have hread : shared.read "main" = .ok "@include login walk\r\nback" := by
    rw [FileTree.read, hatMain]
    exact hmain
  simp [inlinedFile?, hread, show depthBound shared = 4 from rfl, inlineText?, hrows, concat?,
    inlineLine?, shared_includeTargets?, inlineFile?_of_text hatLogin hlogin,
    inlineFile?_of_text hatWalk hwalk, inlineFile?_of_text hatAgain hlogin, shared_path, hended]

theorem inlined_file_compiles_alike_shared :
    inlinedFile? shared "main" = some "visit a\nvisit a\nback" ∧
      ∃ is, (Compile.text walking shared "inlined" "visit a\nvisit a\nback" "/").outcome = .ok is ∧
        calls is = [("visit", ["a"]), ("visit", ["a"]), ("back", [])] := by
  obtain ⟨whole, hwhole, -, hcalls⟩ := inlined_file_compiles_alike file_shared
  rw [inlinedFile?_shared] at hwhole
  obtain rfl := Option.some.inj hwhole
  exact ⟨inlinedFile?_shared, hcalls "inlined" "/"⟩

end Compile

end BrowserScript
