import BrowserScript.Proofs.Includes
import Mathlib.Data.List.Nodup
import Mathlib.Logic.Relation

/-!
# Nested texts

The scan of a text told step by step, with one list of open files for all texts: a file is put at
the end of the list when its text is begun and taken off again when the text is done.  No step looks
at a depth.  A scanner holds the texts that are under way, each with what is still to do in it, and
the sites of these texts keep what the list was when they were begun.

Every scan comes to an end, and it finds what `scanText` finds.  The files in the list are different
files of the tree at every moment, and the list is the same at the beginning and at the end of each
text.  So no more texts are under way at once than there are files, and one.
-/

namespace BrowserScript

namespace Compile

open Relation

/-- A text that is under way: the number of lines that were begun, the files that the last of these
still includes, and the lines that follow. -/
structure Frame where
  site : Site
  line : Nat
  targets : List String
  lines : List String

def Frame.ofText (site : Site) (text : String) : Frame := ⟨site, 0, [], Text.lines text⟩

/-- A text was begun inside another, with one more file open. -/
def Frame.Inside (inner outer : Frame) : Prop :=
  ∃ place, inner.site.opened = outer.site.opened ++ [place]

/-- The texts under way, innermost first, the files that are open, and what has been found. -/
structure Scanner where
  frames : List Frame
  opened : List Place
  found : List Finding

namespace Scanner

def fault (frame : Frame) (outer : List Frame) (opened : List Place) (found : List Finding)
    (f : CompileFault) : Scanner :=
  ⟨frame :: outer, opened, found ++ frame.site.report frame.line f⟩

/-- What comes next: a file to include, a line to read, or the end of the innermost text.  The file
of a text is closed when the text around it goes on. -/
def step (registry : Registry) (tree : FileTree) : Scanner → Option Scanner
  | ⟨[], _, _⟩ => none
  | ⟨⟨site, line, target :: targets, lines⟩ :: outer, opened, found⟩ =>
    let frame : Frame := ⟨site, line, targets, lines⟩
    let path := Path.join site.base target
    match tree.resolve path with
    | .error reason => some (fault frame outer opened found (.missingInclude path reason.message))
    | .ok place =>
      if place ∈ opened then some (fault frame outer opened found (.recursiveInclude path))
      else match tree.textAt place with
        | .error reason =>
          some (fault frame outer opened found (.missingInclude path reason.message))
        | .ok text =>
          let opened := opened ++ [place]
          let inner : Site := ⟨path, tree.pathOf (tree.above place), opened, site.spansAt line⟩
          some ⟨.ofText inner text :: frame :: outer, opened, found⟩
  | ⟨⟨site, line, [], raw :: lines⟩ :: outer, opened, found⟩ =>
    match includeTargets? raw with
    | some targets => some ⟨⟨site, line + 1, targets, lines⟩ :: outer, opened, found⟩
    | none =>
      let more := (statement registry raw).findings site (line + 1)
      some ⟨⟨site, line + 1, [], lines⟩ :: outer, opened, found ++ more⟩
  | ⟨⟨_, _, [], []⟩ :: outer, opened, found⟩ =>
    some ⟨outer, if outer.isEmpty then opened else opened.dropLast, found⟩

def ofText (name base text : String) : Scanner := ⟨[.ofText ⟨name, base, [], []⟩ text], [], []⟩

def ofFile (tree : FileTree) (path : String) : Except ScriptError Scanner :=
  match tree.resolve path with
  | .error reason => .error (.file path reason)
  | .ok place =>
    match tree.textAt place with
    | .error reason => .error (.file path reason)
    | .ok text =>
      .ok ⟨[.ofText ⟨path, (Path.parent? path).getD ".", [place], []⟩ text], [place], []⟩

def Reaches (registry : Registry) (tree : FileTree) : Scanner → Scanner → Prop :=
  ReflTransGen fun s next => s.step registry tree = some next

section Steps

variable {registry : Registry} {tree : FileTree} {site : Site} {line : Nat} {target raw : String}
  {targets lines : List String} {outer : List Frame} {opened : List Place} {found : List Finding}

theorem step_enter {place : Place} {text : String}
    (hplace : tree.resolve (Path.join site.base target) = .ok place) (hnew : place ∉ site.opened)
    (htext : tree.textAt place = .ok text) :
    step registry tree ⟨⟨site, line, target :: targets, lines⟩ :: outer, site.opened, found⟩ =
      some ⟨.ofText (site.enter tree line target place) text ::
        ⟨site, line, targets, lines⟩ :: outer, site.opened ++ [place], found⟩ := by
  unfold step
  simp [hplace, hnew, htext, Site.enter]

/-- A file that is not entered is reported. -/
theorem step_report (scan : Site → String → List Finding)
    (h : ∀ place, tree.resolve (Path.join site.base target) = .ok place → place ∉ site.opened →
      ∀ text, tree.textAt place ≠ .ok text) :
    step registry tree ⟨⟨site, line, target :: targets, lines⟩ :: outer, site.opened, found⟩ =
      some ⟨⟨site, line, targets, lines⟩ :: outer, site.opened,
        found ++ includeFile tree scan site line target⟩ := by
  unfold step includeFile
  dsimp only
  cases hplace : tree.resolve (Path.join site.base target) with
  | error reason => rfl
  | ok place =>
    by_cases hopen : place ∈ site.opened
    · simp [hopen, fault]
    · cases htext : tree.textAt place with
      | error reason => simp [hopen, htext, fault]
      | ok text => exact absurd htext (h place hplace hopen text)

theorem step_leave {frame : Frame} {place : Place} :
    step registry tree ⟨⟨site, line, [], []⟩ :: frame :: outer, opened ++ [place], found⟩ =
      some ⟨frame :: outer, opened, found⟩ := by
  unfold step
  simp

theorem step_include (h : includeTargets? raw = some targets) :
    step registry tree ⟨⟨site, line, [], raw :: lines⟩ :: outer, opened, found⟩ =
      some ⟨⟨site, line + 1, targets, lines⟩ :: outer, opened, found⟩ := by
  unfold step
  simp [h]

theorem step_plain (h : includeTargets? raw = none) :
    step registry tree ⟨⟨site, line, [], raw :: lines⟩ :: outer, opened, found⟩ =
      some ⟨⟨site, line + 1, [], lines⟩ :: outer, opened,
        found ++ (statement registry raw).findings site (line + 1)⟩ := by
  unfold step
  simp [h]

end Steps

/-- What one step can do to the texts under way and the open files. -/
inductive Move (tree : FileTree) : Scanner → Scanner → Prop where
  | goOn {frame frame' : Frame} {outer : List Frame} {opened : List Place}
      {found found' : List Finding} (hsite : frame'.site = frame.site) :
      Move tree ⟨frame :: outer, opened, found⟩ ⟨frame' :: outer, opened, found'⟩
  | enter {frame frame' inner : Frame} {outer : List Frame} {opened : List Place}
      {found : List Finding} {path : String} {place : Place} (hsite : frame'.site = frame.site)
      (hplace : tree.resolve path = .ok place) (hreadable : tree.IsReadable place)
      (hnew : place ∉ opened) (hinner : inner.site.opened = opened ++ [place]) :
      Move tree ⟨frame :: outer, opened, found⟩
        ⟨inner :: frame' :: outer, opened ++ [place], found⟩
  | leave {frame : Frame} {outer : List Frame} {opened : List Place} {found : List Finding} :
      Move tree ⟨frame :: outer, opened, found⟩
        ⟨outer, if outer.isEmpty then opened else opened.dropLast, found⟩

theorem move_of_step {registry : Registry} {tree : FileTree} {s next : Scanner}
    (h : s.step registry tree = some next) : Move tree s next := by
  obtain ⟨_ | ⟨⟨site, line, targets, lines⟩, outer⟩, opened, found⟩ := s
  · nomatch h
  · cases targets with
    | cons target targets =>
      unfold step at h
      dsimp only at h
      split at h
      · obtain rfl := Option.some.inj h
        exact .goOn rfl
      · rename_i place hplace
        split at h
        · obtain rfl := Option.some.inj h
          exact .goOn rfl
        · rename_i hnew
          split at h
          · obtain rfl := Option.some.inj h
            exact .goOn rfl
          · rename_i text htext
            obtain rfl := Option.some.inj h
            exact .enter rfl hplace ⟨text, htext⟩ hnew rfl
    | nil =>
      cases lines with
      | cons raw lines =>
        unfold step at h
        dsimp only at h
        split at h
        · obtain rfl := Option.some.inj h
          exact .goOn rfl
        · obtain rfl := Option.some.inj h
          exact .goOn rfl
      | nil =>
        obtain rfl := Option.some.inj h
        exact .leave

/-! ### The open files -/

theorem isChain_of_site_eq {frame frame' : Frame} {outer : List Frame}
    (hsite : frame'.site = frame.site) (h : (frame :: outer).IsChain Frame.Inside) :
    (frame' :: outer).IsChain Frame.Inside := by
  cases outer with
  | nil => simp
  | cons other outer => simpa [Frame.Inside, hsite] using h

theorem length_le_of_isChain {frame : Frame} {outer : List Frame}
    (h : (frame :: outer).IsChain Frame.Inside) : outer.length ≤ frame.site.opened.length := by
  induction outer generalizing frame with
  | nil => exact Nat.zero_le _
  | cons other outer ih =>
    obtain ⟨⟨place, hinside⟩, hrest⟩ := List.isChain_cons_cons.mp h
    have hlength := ih hrest
    simp only [hinside, List.length_append, List.length_cons, List.length_nil]
    omega

/-- The open files are different files, each where some path leads; they are those that were open
when the innermost text was begun; and each text was begun with one more than the text around it. -/
structure Orderly (tree : FileTree) (s : Scanner) : Prop where
  distinct : s.opened.Nodup
  canonical : ∀ place ∈ s.opened, ∃ path, tree.resolve path = .ok place
  readable : ∀ place ∈ s.opened, tree.IsReadable place
  current : ∀ frame ∈ s.frames.head?, frame.site.opened = s.opened
  nested : s.frames.IsChain Frame.Inside

namespace Orderly

variable {tree : FileTree} {s next : Scanner}

theorem single {opened : List Place} {frame : Frame} {found : List Finding}
    (hdistinct : opened.Nodup)
    (hcanonical : ∀ place ∈ opened, ∃ path, tree.resolve path = .ok place)
    (hreadable : ∀ place ∈ opened, tree.IsReadable place) (hframe : frame.site.opened = opened) :
    Orderly tree ⟨[frame], opened, found⟩ := by
  constructor
  · exact hdistinct
  · exact hcanonical
  · exact hreadable
  · simpa using hframe
  · simp

/-- A step keeps the order. -/
theorem move (h : Orderly tree s) (hmove : Move tree s next) : Orderly tree next := by
  cases hmove with
  | @goOn frame frame' outer opened found found' hsite =>
    have hcurrent := h.current frame rfl
    exact ⟨h.distinct, h.canonical, h.readable, by simpa [hsite] using hcurrent,
      isChain_of_site_eq hsite h.nested⟩
  | @enter frame frame' inner outer opened found path place hsite hplace hreadable hnew hinner =>
    have hcurrent : frame.site.opened = opened := h.current frame rfl
    constructor
    · simpa using List.Nodup.concat hnew h.distinct
    · exact List.forall_mem_append.mpr ⟨h.canonical, by simpa using ⟨path, hplace⟩⟩
    · exact List.forall_mem_append.mpr ⟨h.readable, by simpa using hreadable⟩
    · simpa using hinner
    · have hinside : inner.Inside frame' := ⟨place, by rw [hinner, hsite, hcurrent]⟩
      exact .cons_cons hinside (isChain_of_site_eq hsite h.nested)
  | @leave frame outer opened found =>
    cases outer with
    | nil => exact ⟨h.distinct, h.canonical, h.readable, by simp, .nil⟩
    | cons other outer =>
      -- The file that is closed is the one that was opened for the text that is left.
      have hcurrent : frame.site.opened = opened := h.current frame rfl
      obtain ⟨⟨place, hinside⟩, hnested⟩ := List.isChain_cons_cons.mp h.nested
      have hopened : opened.dropLast = other.site.opened := by
        rw [← hcurrent, hinside, List.dropLast_concat]
      have hsubset : opened.dropLast ⊆ opened := List.dropLast_subset opened
      constructor
      · exact h.distinct.sublist (List.dropLast_sublist opened)
      · exact fun place hplace => h.canonical place (hsubset hplace)
      · exact fun place hplace => h.readable place (hsubset hplace)
      · simpa using hopened.symm
      · exact hnested

theorem reaches {registry : Registry} (h : Orderly tree s) (hs : Reaches registry tree s next) :
    Orderly tree next := by
  induction hs with
  | refl => exact h
  | tail _ hstep ih => exact ih.move (move_of_step hstep)

theorem openFiles (h : Orderly tree s) : OpenFiles tree (depthBound tree) s.opened :=
  .whole h.distinct h.readable

/-- No more texts are under way than there are files, and one. -/
theorem length_le (h : Orderly tree s) : s.frames.length ≤ tree.files.length + 1 := by
  obtain ⟨_ | ⟨frame, outer⟩, opened, found⟩ := s
  · exact Nat.zero_le _
  · have hcurrent : frame.site.opened = opened := h.current frame rfl
    have houter := length_le_of_isChain h.nested
    have hfiles : opened.length ≤ tree.files.length :=
      FileTree.length_le_files h.distinct h.readable
    rw [hcurrent] at houter
    simp only [List.length_cons]
    omega

end Orderly

/-! ### The course of a scan -/

section Course

variable {registry : Registry} {tree : FileTree} {site : Site} {depth : Nat}

theorem Reaches.step {s next last : Scanner} (hstep : s.step registry tree = some next)
    (h : Reaches registry tree next last) : Reaches registry tree s last :=
  ReflTransGen.head hstep h

/-- The scanner begins any text with the given files open, and comes to the text's end. -/
def TextsEnd (registry : Registry) (tree : FileTree) (depth : Nat) : Prop :=
  ∀ (site : Site) (text : String) (outer : List Frame) (found : List Finding),
    OpenFiles tree depth site.opened →
      ∃ line, Reaches registry tree ⟨.ofText site text :: outer, site.opened, found⟩
        ⟨⟨site, line, [], []⟩ :: outer, site.opened,
          found ++ scanText registry tree depth site text⟩

theorem reaches_targets (hopen : OpenFiles tree (depth + 1) site.opened)
    (hinner : TextsEnd registry tree depth) (line : Nat) (targets lines : List String)
    (outer : List Frame) (found : List Finding) :
    Reaches registry tree ⟨⟨site, line, targets, lines⟩ :: outer, site.opened, found⟩
      ⟨⟨site, line, [], lines⟩ :: outer, site.opened,
        found ++ targets.flatMap (includeFile tree (scanText registry tree depth) site line)⟩ := by
  induction targets generalizing found with
  | nil =>
    rw [List.flatMap_nil, List.append_nil]
    exact ReflTransGen.refl
  | cons target targets ih =>
    rw [List.flatMap_cons, ← List.append_assoc]
    by_cases hentered : ∃ place text, tree.resolve (Path.join site.base target) = .ok place ∧
        place ∉ site.opened ∧ tree.textAt place = .ok text
    · obtain ⟨place, text, hplace, hnew, htext⟩ := hentered
      obtain ⟨last, htextEnd⟩ := hinner (site.enter tree line target place) text
        (⟨site, line, targets, lines⟩ :: outer) found (hopen.enter hnew ⟨text, htext⟩)
      rw [includeFile_of_text hplace htext rfl hnew]
      exact .step (step_enter hplace hnew htext) (htextEnd.trans (Reaches.step step_leave (ih _)))
    · have hreport : ∀ place, tree.resolve (Path.join site.base target) = .ok place →
          place ∉ site.opened → ∀ text, tree.textAt place ≠ .ok text :=
        fun place hplace hnew text htext => hentered ⟨place, text, hplace, hnew, htext⟩
      exact .step (step_report _ hreport) (ih _)

theorem reaches_lines (hopen : OpenFiles tree (depth + 1) site.opened)
    (hinner : TextsEnd registry tree depth) (line : Nat) (lines : List String)
    (outer : List Frame) (found : List Finding) :
    ∃ last, Reaches registry tree ⟨⟨site, line, [], lines⟩ :: outer, site.opened, found⟩
      ⟨⟨site, last, [], []⟩ :: outer, site.opened,
        found ++ scanLines registry tree (scanText registry tree depth) site (line + 1) lines⟩ := by
  induction lines generalizing line found with
  | nil =>
    rw [scanLines, List.append_nil]
    exact ⟨line, ReflTransGen.refl⟩
  | cons raw lines ih =>
    rw [scanLines, ← List.append_assoc]
    obtain ⟨last, hlast⟩ := ih (line + 1)
      (found ++ scanLine registry tree (scanText registry tree depth) site (line + 1) raw)
    refine ⟨last, ?_⟩
    cases htargets : includeTargets? raw with
    | none =>
      rw [scanLine_of_plain htargets] at hlast ⊢
      exact .step (step_plain htargets) hlast
    | some targets =>
      rw [scanLine_of_include htargets] at hlast ⊢
      have hfiles := reaches_targets hopen hinner (line + 1) targets lines outer found
      exact .step (step_include htargets) (hfiles.trans hlast)

/-- A text that is begun comes to its end, with the same files open and with what `scanText`
finds. -/
theorem textsEnd (registry : Registry) (tree : FileTree) (depth : Nat) :
    TextsEnd registry tree depth := by
  induction depth with
  | zero => exact fun site text outer found hopen => absurd rfl hopen.depth_ne_zero
  | succ depth ih =>
    intro site text outer found hopen
    exact reaches_lines hopen ih 0 (Text.lines text) outer found

/-- Whatever is under way comes to the end of its innermost text, with the same files open. -/
theorem Orderly.returns {s : Scanner} (h : Orderly tree s) {frame : Frame} {outer : List Frame}
    (hframes : s.frames = frame :: outer) :
    ∃ line found,
      Reaches registry tree s ⟨⟨frame.site, line, [], []⟩ :: outer, s.opened, found⟩ := by
  obtain ⟨frames, opened, found⟩ := s
  obtain ⟨site, line, targets, lines⟩ := frame
  obtain rfl : frames = _ := hframes
  obtain rfl : site.opened = opened := h.current _ rfl
  have hfiles := reaches_targets h.openFiles (textsEnd registry tree tree.size) line targets lines
    outer found
  obtain ⟨last, hlines⟩ := reaches_lines h.openFiles (textsEnd registry tree tree.size) line lines
    outer _
  exact ⟨last, _, hfiles.trans hlines⟩

/-- A scanner that comes to an end by some steps cannot go on for ever: each step is the only
one. -/
theorem Reaches.acc {s last : Scanner} (h : Reaches registry tree s last)
    (hlast : last.step registry tree = none) :
    Acc (fun next s : Scanner => s.step registry tree = some next) s := by
  induction h using ReflTransGen.head_induction_on with
  | refl =>
    constructor
    intro next hnext
    rw [hlast] at hnext
    nomatch hnext
  | head hstep _ ih =>
    constructor
    intro next hnext
    rw [hstep] at hnext
    rw [← Option.some.inj hnext]
    exact ih

end Course

/-- The scan that starts so ends after finitely many steps, with the files that were open at its
start and with these findings.  On the way the open files are orderly, the number of texts under way
is limited, and each text that is begun is left with the files open with which it was begun. -/
structure EndsWith (registry : Registry) (tree : FileTree) (start : Scanner)
    (findings : List Finding) : Prop where
  stops : Acc (fun next s : Scanner => s.step registry tree = some next) start
  ends : Reaches registry tree start ⟨[], start.opened, findings⟩
  orderly : ∀ s, Reaches registry tree start s → Orderly tree s
  limited : ∀ s, Reaches registry tree start s → s.frames.length ≤ tree.files.length + 1
  returns : ∀ s, Reaches registry tree start s → ∀ frame outer, s.frames = frame :: outer →
    ∃ line found, Reaches registry tree s ⟨⟨frame.site, line, [], []⟩ :: outer, s.opened, found⟩

theorem endsWith_scanText (registry : Registry) {tree : FileTree} {site : Site} (text : String)
    (h : Orderly tree ⟨[.ofText site text], site.opened, []⟩) :
    EndsWith registry tree ⟨[.ofText site text], site.opened, []⟩
      (scanText registry tree (depthBound tree) site text) := by
  have hends : Reaches registry tree ⟨[.ofText site text], site.opened, []⟩
      ⟨[], site.opened, scanText registry tree (depthBound tree) site text⟩ := by
    obtain ⟨line, hlast⟩ := textsEnd registry tree (depthBound tree) site text [] [] h.openFiles
    refine hlast.tail ?_
    unfold step
    simp
  constructor
  · exact hends.acc rfl
  · exact hends
  · exact fun s hs => h.reaches hs
  · exact fun s hs => (h.reaches hs).length_le
  · exact fun s hs frame outer hframes => (h.reaches hs).returns hframes

end Scanner

/-- Every text and every file is scanned to the end, whatever it includes. -/
theorem include_recursion_ends (registry : Registry) (tree : FileTree) :
    (∀ name text base, Scanner.EndsWith registry tree (.ofText name base text)
      (textFindings registry tree name text base)) ∧
    ∀ path,
      (∃ e, Scanner.ofFile tree path = .error e ∧ fileFindings registry tree path = .error e) ∨
      ∃ start findings, Scanner.ofFile tree path = .ok start ∧
        fileFindings registry tree path = .ok findings ∧
        Scanner.EndsWith registry tree start findings := by
  constructor
  · intro name text base
    exact Scanner.endsWith_scanText registry text (.single (by simp) (by simp) (by simp) rfl)
  · intro path
    unfold Scanner.ofFile fileFindings
    cases hplace : tree.resolve path with
    | error reason => exact .inl ⟨_, rfl, rfl⟩
    | ok place =>
      cases htext : tree.textAt place with
      | error reason => exact .inl ⟨.file path reason, by simp [htext], by simp [htext]⟩
      | ok text =>
        have horderly : Scanner.Orderly tree
            ⟨[.ofText ⟨path, (Path.parent? path).getD ".", [place], []⟩ text], [place], []⟩ :=
          .single (by simp) (by simpa using ⟨path, hplace⟩) (by simpa using ⟨text, htext⟩) rfl
        exact .inr ⟨_, _, by simp only [htext], by simp only [htext],
          Scanner.endsWith_scanText registry text horderly⟩

end Compile

end BrowserScript
