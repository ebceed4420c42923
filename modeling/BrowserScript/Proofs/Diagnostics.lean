import BrowserScript.Proofs.IncludeCycles
import BrowserScript.Proofs.Inlining

/-!
# Where findings stand

A finding names a file and the number of a line.  While a file is scanned, its name leads to it: the
script is named by the path that was given, an included file by the path that was read.  So the line
is found again from the name and the number alone, and it shows what was found: the call of an
action, or a fault of the kind that is reported.
-/

namespace BrowserScript

/-- The line with a number, counted from one, of the file at a path. -/
def FileTree.line? (tree : FileTree) (path : String) : Nat → Option String
  | 0 => none
  | before + 1 => (tree.read path).toOption.bind fun text => (Text.lines text)[before]?

theorem FileTree.line?_of_text {tree : FileTree} {path text : String} {place : Place}
    (hplace : tree.resolve path = .ok place) (htext : tree.textAt place = .ok text) (k : Nat) :
    tree.line? path (1 + k) = (Text.lines text)[k]? := by
  have hread : tree.read path = .ok text := by
    rw [FileTree.read, hplace]
    exact htext
  rw [Nat.add_comm, line?, hread]
  rfl

namespace Compile

open Relation

/-- A line that has something to compile: it is neither blank nor a comment. -/
structure HasContent (raw : String) : Prop where
  nonempty : Text.trim raw ≠ ""
  uncommented : (Text.trim raw).toList.head? ≠ some '#'

theorem HasContent.of_isIdle {raw : String} (h : isIdle (Text.trim raw) = false) :
    HasContent raw := by
  obtain ⟨hempty, hmark⟩ := Bool.or_eq_false_iff.mp h
  exact ⟨by simpa using hempty, by simpa using hmark⟩

/-- A line calls an action with some arguments: its first word names the action, which is registered
and takes the other words, and these stand for the arguments. -/
inductive Calls (registry : Registry) (raw : String) : String → List String → Prop
  | intro {head : String} {words : List String} {action : Action}
      (hwords : Words.split (Text.trim raw) = .ok (head :: words))
      (haction : registry.get? (Action.normalizeName head) = some action)
      (hexcess : action.excess? words = none) :
      Calls registry raw (Action.normalizeName head) (words.map Escape.decode)

theorem Calls.of_statement {registry : Registry} {raw name : String} {args : List String}
    (h : statement registry raw = .action name args) :
    HasContent raw ∧ Calls registry raw name args := by
  obtain ⟨hidle, head, words, action, hwords, rfl, haction, hexcess, rfl⟩ := words_of_action h
  exact ⟨.of_isIdle hidle, .intro hwords haction hexcess⟩

/-- A line of the file `here` exhibits a fault while the script at a path is read. -/
inductive Exhibits (registry : Registry) (tree : FileTree) (path : String) (here : Place)
    (raw : String) : CompileFault → Prop
  | malformed {e : WordsError} (hwords : Words.split (Text.trim raw) = .error e) :
      Exhibits registry tree path here raw (.malformed e.message)
  | unknownAction {head : String} {words : List String}
      (hwords : Words.split (Text.trim raw) = .ok (head :: words))
      (hmark : (Action.normalizeName head).toList.head? ≠ some '@')
      (hunknown : registry.get? (Action.normalizeName head) = none) :
      Exhibits registry tree path here raw (.unknownAction head)
  | tooManyArguments {head : String} {words : List String} {action : Action} {given : Nat}
      (hwords : Words.split (Text.trim raw) = .ok (head :: words))
      (hmark : (Action.normalizeName head).toList.head? ≠ some '@')
      (haction : registry.get? (Action.normalizeName head) = some action)
      (hexcess : action.excess? words = some given) :
      Exhibits registry tree path here raw (.tooManyArguments given action.signature)
  | unknownDirective {head : String} {words : List String}
      (hwords : Words.split (Text.trim raw) = .ok (head :: words))
      (hmark : (Action.normalizeName head).toList.head? = some '@')
      (hname : Action.normalizeName head ≠ "@include") :
      Exhibits registry tree path here raw (.unknownDirective (Action.normalizeName head))
  | nothingIncluded {head : String} (hwords : Words.split (Text.trim raw) = .ok [head])
      (hname : Action.normalizeName head = "@include") :
      Exhibits registry tree path here raw (.malformed "@include expects at least one path")
  | missingInclude {head word : String} {words : List String} {fault : FileFault}
      (hwords : Words.split (Text.trim raw) = .ok (head :: words))
      (hname : Action.normalizeName head = "@include") (hword : word ∈ words)
      (hread : tree.read (Path.join (folderOf tree path here) (Escape.decode word)) =
        .error fault) :
      Exhibits registry tree path here raw
        (.missingInclude (Path.join (folderOf tree path here) (Escape.decode word)) fault.message)
  /-- The included file leads back to the file of the line. -/
  | recursiveInclude {head word : String} {words : List String} {place : Place}
      (hwords : Words.split (Text.trim raw) = .ok (head :: words))
      (hname : Action.normalizeName head = "@include") (hword : word ∈ words)
      (hplace : tree.resolve (Path.join (folderOf tree path here) (Escape.decode word)) = .ok place)
      (hback : ReflTransGen (Includes tree path) place here) :
      Exhibits registry tree path here raw
        (.recursiveInclude (Path.join (folderOf tree path here) (Escape.decode word)))

theorem Exhibits.of_statement {registry : Registry} {tree : FileTree} {path raw : String}
    {here : Place} {fault : CompileFault} (hplain : includeTargets? raw = none)
    (h : statement registry raw = .fault fault) :
    HasContent raw ∧ Exhibits registry tree path here raw fault := by
  unfold statement at h
  unfold includeTargets? at hplain
  dsimp only at h hplain
  by_cases hidle : isIdle (Text.trim raw) = true
  · simp [hidle] at h
  · rw [if_neg hidle] at h hplain
    refine ⟨.of_isIdle (Bool.not_eq_true _ ▸ hidle), ?_⟩
    rcases hwords : Words.split (Text.trim raw) with e | ⟨_ | ⟨head, words⟩⟩
    · simp only [hwords, Statement.fault.injEq] at h
      exact h ▸ .malformed hwords
    · simp [hwords] at h
    · simp only [hwords] at h hplain
      by_cases hmark : ((Action.normalizeName head).toList.head? == some '@') = true
      · rw [if_pos hmark] at h
        by_cases hname : Action.normalizeName head = "@include"
        · have hnone : words = [] := by simpa [hname] using hplain
          simp only [hname, ne_eq, not_true, if_false, Statement.fault.injEq] at h
          exact h ▸ .nothingIncluded (hnone ▸ hwords) hname
        · simp only [hname, ne_eq, not_false_eq_true, if_true, Statement.fault.injEq] at h
          exact h ▸ .unknownDirective hwords (by simpa using hmark) hname
      · rw [if_neg hmark] at h
        have hmark : (Action.normalizeName head).toList.head? ≠ some '@' := by simpa using hmark
        cases haction : registry.get? (Action.normalizeName head) with
        | none =>
          simp only [haction, Statement.fault.injEq] at h
          exact h ▸ .unknownAction hwords hmark haction
        | some action =>
          cases hexcess : action.excess? words with
          | none => simp [haction, hexcess] at h
          | some given =>
            simp only [haction, hexcess, Statement.fault.injEq] at h
            exact h ▸ .tooManyArguments hwords hmark haction hexcess

/-- The line that a finding names shows what was found. -/
inductive Shown (registry : Registry) (tree : FileTree) (path : String) : Finding → Prop
  | instruction {i : Instruction} {raw : String} (hline : tree.line? i.source i.line = some raw)
      (hcontent : HasContent raw) (hcalls : Calls registry raw i.action i.args) :
      Shown registry tree path (.instruction i)
  | error {e : CompileError} {spans : List Log.Span} {here : Place} {raw : String}
      (hhere : tree.resolve e.source = .ok here) (hline : tree.line? e.source e.line = some raw)
      (hcontent : HasContent raw) (hfault : Exhibits registry tree path here raw e.fault) :
      Shown registry tree path (.error e spans)

section Scan

variable {registry : Registry} {tree : FileTree} {path : String} {start current : Place}
  {site : Site} {text raw : String} {line : Nat}

theorem shown_of_report (hhere : tree.resolve site.source = .ok current)
    (hline : tree.line? site.source line = some raw) (hcontent : HasContent raw)
    {fault : CompileFault} (hfault : Exhibits registry tree path current raw fault) {f : Finding}
    (hf : f ∈ site.report line fault) : Shown registry tree path f := by
  rw [List.mem_singleton.mp hf]
  exact .error hhere hline hcontent hfault

theorem shown_of_plain (hhere : tree.resolve site.source = .ok current)
    (hline : tree.line? site.source line = some raw) (hplain : includeTargets? raw = none)
    {f : Finding} (hf : f ∈ (statement registry raw).findings site line) :
    Shown registry tree path f := by
  cases hs : statement registry raw with
  | nothing =>
    rw [hs] at hf
    nomatch hf
  | fault fault =>
    rw [hs] at hf
    obtain ⟨hcontent, hfault⟩ := Exhibits.of_statement hplain hs
    exact shown_of_report hhere hline hcontent hfault hf
  | action name args =>
    rw [hs] at hf
    obtain ⟨hcontent, hcalls⟩ := Calls.of_statement hs
    rw [List.mem_singleton.mp hf]
    exact .instruction hline hcontent hcalls

/-- What is found for a file that a line includes is shown by the line, unless the file is read. -/
theorem shown_of_includeFile {scan : Site → String → List Finding}
    (hwalk : Walk tree path start current site text)
    (hhere : tree.resolve site.source = .ok current) (hraw : raw ∈ Text.lines text)
    (hline : tree.line? site.source line = some raw) {targets : List String} {target : String}
    (htargets : includeTargets? raw = some targets) (htarget : target ∈ targets)
    (hscan : ∀ place inner, Walk tree path start place (site.enter tree line target place) inner →
      tree.resolve (site.enter tree line target place).source = .ok place →
      ∀ f ∈ scan (site.enter tree line target place) inner, Shown registry tree path f)
    {f : Finding} (hf : f ∈ includeFile tree scan site line target) :
    Shown registry tree path f := by
  obtain ⟨hidle, head, words, hwords, hname, rfl⟩ := words_of_include htargets
  obtain ⟨word, hword, rfl⟩ := List.mem_map.mp htarget
  have hcontent := HasContent.of_isIdle hidle
  rcases includeFile_cases tree scan site line (Escape.decode word) with
    ⟨fault, hread, hmissing⟩ | ⟨place, hplace, hopened | ⟨hnew, inner, hinner⟩⟩
  · rw [hmissing] at hf
    rw [hwalk.base] at hread hf
    exact shown_of_report hhere hline hcontent (.missingInclude hwords hname hword hread) hf
  · have hback := (hwalk.through place hopened).2
    rw [includeFile_of_open hplace hopened] at hf
    rw [hwalk.base] at hplace hf
    exact shown_of_report hhere hline hcontent
      (.recursiveInclude hwords hname hword hplace hback) hf
  · have hedge := hwalk.includes hraw htargets htarget hplace ⟨inner, hinner⟩
    rw [includeFile_of_text hplace hinner rfl hnew] at hf
    exact hscan place inner (hwalk.enter hedge hnew hinner line _) hplace f hf

/-- Whatever the scan of a file finds, there or in the files that it includes, is shown. -/
theorem shown_of_scanText {depth : Nat} (hwalk : Walk tree path start current site text)
    (hhere : tree.resolve site.source = .ok current) {f : Finding}
    (hf : f ∈ scanText registry tree depth site text) : Shown registry tree path f := by
  -- An included file is entered under the path that was resolved, so its name leads to it too.
  induction depth generalizing site text current f with
  | zero => nomatch hf
  | succ depth ih =>
    obtain ⟨k, raw, hraw, hf⟩ := exists_line_of_mem_scanLines hf
    have hline : tree.line? site.source (1 + k) = some raw := by
      rw [FileTree.line?_of_text hhere hwalk.text, hraw]
    cases htargets : includeTargets? raw with
    | none =>
      rw [scanLine_of_plain htargets] at hf
      exact shown_of_plain hhere hline htargets hf
    | some targets =>
      rw [scanLine_of_include htargets] at hf
      obtain ⟨target, htarget, hf⟩ := List.mem_flatMap.mp hf
      exact shown_of_includeFile hwalk hhere (List.mem_of_getElem? hraw) hline htargets htarget
        (fun place inner hinside hplace f hf => ih hinside hplace hf) hf

end Scan

/-- Every finding of a compilation names a file and the number of a line in it.  The line of an
instruction calls its action with its arguments; the line of an error has something to compile and
exhibits the fault that is reported. -/
theorem findings_name_their_lines {registry : Registry} {tree : FileTree} {path : String}
    {findings : List Finding} (h : fileFindings registry tree path = .ok findings) :
    (∀ i ∈ instructions findings, ∃ raw, tree.line? i.source i.line = some raw ∧
      HasContent raw ∧ Calls registry raw i.action i.args) ∧
    ∀ e ∈ (file registry tree path).reported, ∃ here raw, tree.resolve e.source = .ok here ∧
      tree.line? e.source e.line = some raw ∧ HasContent raw ∧
      Exhibits registry tree path here raw e.fault := by
  have hshown : ∀ f ∈ findings, Shown registry tree path f := by
    rcases fileFindings_cases registry tree path with
      ⟨fault, hfault⟩ | ⟨start, text, hstart, htext, hfindings⟩
    · rw [hfault] at h
      nomatch h
    · rw [hfindings] at h
      obtain rfl := Except.ok.inj h
      exact fun f hf => shown_of_scanText (.single hstart htext) hstart hf
  constructor
  · intro i hi
    cases hshown _ (mem_instructions_iff.mp hi) with
    | instruction hline hcontent hcalls => exact ⟨_, hline, hcontent, hcalls⟩
  · intro e he
    rw [reported_of_findings h] at he
    obtain ⟨spans, hf⟩ := mem_errors_iff.mp he
    cases hshown _ hf with
    | error hhere hline hcontent hfault => exact ⟨_, _, hhere, hline, hcontent, hfault⟩

/-- A script with a fault of its own and one in a file that it includes. -/
def faulty : FileTree where
  base := "/scripts"
  entries :=
    [(["main"], .file "\n@include login\nback x"), (["login"], .file "visit a\n# out\nleave")]

theorem fileFindings_faulty : ∃ spans spans', fileFindings walking faulty "main" = .ok
    [.instruction ⟨"login", 1, "visit", ["a"]⟩,
      .error ⟨"login", 3, .unknownAction "leave"⟩ spans,
      .error ⟨"main", 3, .tooManyArguments 1 "back"⟩ spans'] := by
  have hlines : Text.lines "\n@include login\nback x" = ["", "@include login", "back x"] ∧
      Text.lines "visit a\n# out\nleave" = ["visit a", "# out", "leave"] := by
    decide +kernel
  have hstatements : statement walking "" = .nothing ∧
      statement walking "back x" = .fault (.tooManyArguments 1 "back") ∧
      statement walking "visit a" = .action "visit" ["a"] ∧
      statement walking "# out" = .nothing ∧
      statement walking "leave" = .fault (.unknownAction "leave") := by
    decide +kernel
  have hplain : includeTargets? "" = none ∧ includeTargets? "back x" = none ∧
      includeTargets? "visit a" = none ∧ includeTargets? "# out" = none ∧
      includeTargets? "leave" = none := by
    decide +kernel
  have hatMain : faulty.resolve "main" = .ok (.inside ["main"]) :=
    resolve_of_top (by decide +kernel) (by decide) rfl (by decide +kernel) (by decide +kernel)
  have hatLogin : faulty.resolve "login" = .ok (.inside ["login"]) :=
    resolve_of_top (by decide +kernel) (by decide) rfl (by decide +kernel) (by decide +kernel)
  have hmain : faulty.textAt (.inside ["main"]) = .ok "\n@include login\nback x" := rfl
  have hlogin : faulty.textAt (.inside ["login"]) = .ok "visit a\n# out\nleave" := rfl
  obtain ⟨hempty, hback, hvisit, hout, hleave⟩ := hplain
  obtain ⟨-, -, hone, -⟩ := shared_includeTargets?
  simp [fileFindings, hatMain, hmain, show depthBound faulty = 3 from rfl, scanText, hlines,
    scanLines, scanLine_of_include hone, scanLine_of_plain hempty, scanLine_of_plain hback,
    scanLine_of_plain hvisit, scanLine_of_plain hout, scanLine_of_plain hleave,
    includeFile_of_text hatLogin hlogin, Site.enter, shared_path, hstatements,
    Statement.findings, Site.report]

theorem findings_name_their_lines_faulty :
    (∃ raw, faulty.line? "login" 1 = some raw ∧ HasContent raw ∧
      Calls walking raw "visit" ["a"]) ∧
    ∃ here raw, faulty.resolve "login" = .ok here ∧ faulty.line? "login" 3 = some raw ∧
      HasContent raw ∧ Exhibits walking faulty "main" here raw (.unknownAction "leave") := by
  obtain ⟨spans, spans', hfindings⟩ := fileFindings_faulty
  obtain ⟨hcalls, hfaults⟩ := findings_name_their_lines hfindings
  rw [reported_of_findings hfindings] at hfaults
  constructor
  · exact hcalls ⟨"login", 1, "visit", ["a"]⟩ List.mem_cons_self
  · exact hfaults ⟨"login", 3, .unknownAction "leave"⟩ List.mem_cons_self

end Compile

end BrowserScript
