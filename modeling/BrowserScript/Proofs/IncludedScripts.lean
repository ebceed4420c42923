import BrowserScript.Proofs.Concatenation
import BrowserScript.Proofs.WrittenWords

/-!
# Scripts run directly and included

A script can be compiled by its path, or by a text whose only line includes that path.  Both read
the same file, but they start its includes from different directories: the one that the path names,
and the one that holds the file once all links are followed.  The files that it includes start
theirs from the same directories in both cases.  So the two compilations agree, but for the names of
files in what they report, if the script's own includes lead to the same files from both
directories.  If the path is a link into another directory, they need not.
-/

namespace BrowserScript

def CompileFault.unnamed : CompileFault → CompileFault
  | .missingInclude _ reason => .missingInclude "" reason
  | .recursiveInclude _ => .recursiveInclude ""
  | fault => fault

namespace Compile

/-- What is found in a line, whatever its file and the files that it includes are called. -/
def Finding.unnamed : Finding → (Nat × CompileFault) ⊕ (Nat × String × List String)
  | .instruction i => .inr (i.line, i.action, i.args)
  | .error e _ => .inl (e.line, e.fault.unnamed)

/-- Two compilations agree but for the names of files: both yield the same actions in the same
lines, or both report faults of the same kinds in the same lines. -/
inductive Agree : Except ScriptError (List Instruction) → Except ScriptError (List Instruction) →
    Prop
  | ok {is is' : List Instruction} (h : is.map (fun i => (i.line, i.action, i.args)) =
      is'.map fun i => (i.line, i.action, i.args)) : Agree (.ok is) (.ok is')
  | error {es es' : List CompileError} (h : es.map (fun e => (e.line, e.fault.unnamed)) =
      es'.map fun e => (e.line, e.fault.unnamed)) :
      Agree (.error (.compile es)) (.error (.compile es'))

theorem map_instructions (findings : List Finding) :
    (instructions findings).map (fun i => (i.line, i.action, i.args)) =
      (findings.map Finding.unnamed).filterMap Sum.getRight? := by
  rw [instructions, List.filterMap_map, List.map_filterMap]
  congr
  funext f
  cases f <;> rfl

theorem map_errors (findings : List Finding) :
    (errors findings).map (fun e => (e.line, e.fault.unnamed)) =
      (findings.map Finding.unnamed).filterMap Sum.getLeft? := by
  rw [errors, List.filterMap_map, List.map_filterMap]
  congr
  funext f
  cases f <;> rfl

theorem agree_finish {findings others : List Finding}
    (h : findings.map Finding.unnamed = others.map Finding.unnamed) :
    Agree (finish findings).outcome (finish others).outcome := by
  have herrors := map_errors findings
  rw [h, ← map_errors others] at herrors
  have hinstructions := map_instructions findings
  rw [h, ← map_instructions others] at hinstructions
  by_cases hnone : errors findings = []
  · have hothers : errors others = [] := by simpa [hnone] using herrors.symm
    rw [finish_eq_ok_iff.mpr ⟨hnone, rfl⟩, finish_eq_ok_iff.mpr ⟨hothers, rfl⟩]
    exact .ok hinstructions
  · have hothers : errors others ≠ [] := by
      intro hothers
      exact hnone (by simpa [hothers] using herrors)
    rw [finish_eq_error_iff.mpr ⟨hnone, rfl⟩, finish_eq_error_iff.mpr ⟨hothers, rfl⟩]
    exact .error herrors

/-! ### The same text from two directories -/

/-- From two directories, lines include the same files or fail to for the same reason. -/
def SameFiles (tree : FileTree) (base base' : String) (lines : List String) : Prop :=
  ∀ raw ∈ lines, ∀ targets, includeTargets? raw = some targets → ∀ target ∈ targets,
    tree.resolve (Path.join base target) = tree.resolve (Path.join base' target)

theorem sameFiles_cons {tree : FileTree} {base base' raw : String} {lines : List String} :
    SameFiles tree base base' (raw :: lines) ↔
      SameFiles tree base base' [raw] ∧ SameFiles tree base base' lines := by
  simp [SameFiles]

section Scan

variable {registry : Registry} {tree : FileTree} {scan scan' : Site → String → List Finding}
  {site site' : Site}

theorem unnamed_report (line : Nat) {fault fault' : CompileFault}
    (h : fault.unnamed = fault'.unnamed) :
    (site.report line fault).map Finding.unnamed =
      (site'.report line fault').map Finding.unnamed := by
  simp [Site.report, Finding.unnamed, h]

theorem unnamed_statement (s : Statement) (line : Nat) :
    (s.findings site line).map Finding.unnamed = (s.findings site' line).map Finding.unnamed := by
  cases s <;> rfl

theorem unnamed_includeFile (hopened : site.opened = site'.opened) {target : String}
    (hsame : tree.resolve (Path.join site.base target) =
      tree.resolve (Path.join site'.base target)) (line : Nat)
    (hscan : ∀ place text, place ∉ site.opened → tree.textAt place = .ok text →
      (scan (site.enter tree line target place) text).map Finding.unnamed =
        (scan' (site'.enter tree line target place) text).map Finding.unnamed) :
    (includeFile tree scan site line target).map Finding.unnamed =
      (includeFile tree scan' site' line target).map Finding.unnamed := by
  cases hplace : tree.resolve (Path.join site.base target) with
  | error fault =>
    have hplace' := hsame.symm.trans hplace
    unfold includeFile
    simp only [hplace, hplace']
    exact unnamed_report line rfl
  | ok place =>
    have hplace' := hsame.symm.trans hplace
    by_cases hopen : place ∈ site.opened
    · rw [includeFile_of_open hplace hopen, includeFile_of_open hplace' (hopened ▸ hopen)]
      exact unnamed_report line rfl
    · have hopen' : place ∉ site'.opened := hopened ▸ hopen
      cases htext : tree.textAt place with
      | error fault =>
        unfold includeFile
        simp only [hplace, hplace', hopen, hopen', htext, if_false]
        exact unnamed_report line rfl
      | ok text =>
        rw [includeFile_of_text hplace htext rfl hopen,
          includeFile_of_text hplace' htext rfl hopen']
        exact hscan place text hopen htext

theorem unnamed_scanLine {raw : String} (hsame : SameFiles tree site.base site'.base [raw])
    (hopened : site.opened = site'.opened) (line : Nat)
    (hscan : ∀ target place text, place ∉ site.opened → tree.textAt place = .ok text →
      (scan (site.enter tree line target place) text).map Finding.unnamed =
        (scan' (site'.enter tree line target place) text).map Finding.unnamed) :
    (scanLine registry tree scan site line raw).map Finding.unnamed =
      (scanLine registry tree scan' site' line raw).map Finding.unnamed := by
  cases htargets : includeTargets? raw with
  | none =>
    rw [scanLine_of_plain htargets, scanLine_of_plain htargets]
    exact unnamed_statement _ line
  | some targets =>
    rw [scanLine_of_include htargets, scanLine_of_include htargets, List.map_flatMap,
      List.map_flatMap]
    refine List.flatMap_congr fun target htarget => ?_
    have hfile := hsame raw (List.mem_singleton_self raw) targets htargets target htarget
    exact unnamed_includeFile hopened hfile line (hscan target)

theorem unnamed_scanLines {lines : List String}
    (hsame : SameFiles tree site.base site'.base lines) (hopened : site.opened = site'.opened)
    (hscan : ∀ line target place text, place ∉ site.opened → tree.textAt place = .ok text →
      (scan (site.enter tree line target place) text).map Finding.unnamed =
        (scan' (site'.enter tree line target place) text).map Finding.unnamed) (first : Nat) :
    (scanLines registry tree scan site first lines).map Finding.unnamed =
      (scanLines registry tree scan' site' first lines).map Finding.unnamed := by
  induction lines generalizing first with
  | nil => rfl
  | cons raw lines ih =>
    obtain ⟨hraw, hlines⟩ := sameFiles_cons.mp hsame
    rw [scanLines, scanLines, List.map_append, List.map_append, ih hlines,
      unnamed_scanLine hraw hopened first (hscan first)]

/-- What is found in a text depends on where its includes start, but not on its name, the spans
around it or the depth that is left, as long as that covers all files that are not open. -/
theorem unnamed_scanText {depth depth' : Nat} {text : String}
    (hsame : SameFiles tree site.base site'.base (Text.lines text))
    (hopened : site.opened = site'.opened) (hopen : OpenFiles tree depth site.opened)
    (hopen' : OpenFiles tree depth' site'.opened) :
    (scanText registry tree depth site text).map Finding.unnamed =
      (scanText registry tree depth' site' text).map Finding.unnamed := by
  induction depth generalizing depth' site site' text with
  | zero => exact absurd rfl hopen.depth_ne_zero
  | succ depth ih =>
    cases depth' with
    | zero => exact absurd rfl hopen'.depth_ne_zero
    | succ depth' =>
      refine unnamed_scanLines hsame hopened (fun line target place inner hnew hinner => ?_) 1
      -- Whatever the directory of the text, an included file has one of its own.
      have hinside : SameFiles tree (site.enter tree line target place).base
          (site'.enter tree line target place).base (Text.lines inner) := fun _ _ _ _ _ _ => rfl
      refine ih hinside ?_ (hopen.enter hnew ⟨inner, hinner⟩)
        (hopen'.enter (hopened ▸ hnew) ⟨inner, hinner⟩)
      exact congrArg (· ++ [place]) hopened

end Scan

theorem lines_includeLine (path : String) :
    Text.lines (includeLine (Escape.encode path)) = [includeLine (Escape.encode path)] := by
  have hpath := Words.newline_not_mem_quote (Escape.newline_not_mem_encode path)
  apply Text.lines_of_no_newline
  · simp [toList_includeLine, hpath]
  · simp [includeLine]

theorem includeTargets?_encode (path : String) :
    includeTargets? (includeLine (Escape.encode path)) = some [path] := by
  rw [includeTargets?_includeLine, Escape.decode_encode]

/-- The line that includes a path yields what the file at the path yields. -/
theorem scanText_includeLine (registry : Registry) (tree : FileTree) (depth : Nat) (site : Site)
    (path : String) :
    scanText registry tree (depth + 1) site (includeLine (Escape.encode path)) =
      includeFile tree (scanText registry tree depth) site 1 path := by
  rw [scanText, lines_includeLine, scanLines, scanLines, List.append_nil,
    scanLine_of_include (includeTargets?_encode path), List.flatMap_singleton]

/-- A script compiled by its path and one that only includes that path agree, but for the names of
files, if the script's own includes lead to the same files from the directory that the path names
and from the one that holds the file. -/
theorem included_script_agrees {registry : Registry} {tree : FileTree} {path text base : String}
    {place : Place} (hplace : tree.resolve path = .ok place) (htext : tree.textAt place = .ok text)
    (hbase : tree.resolve (Path.join base path) = .ok place)
    (hsame : SameFiles tree ((Path.parent? path).getD ".") (tree.pathOf (tree.above place))
      (Text.lines text)) (name : String) :
    Agree (file registry tree path).outcome
      (Compile.text registry tree name (includeLine (Escape.encode path)) base).outcome := by
  have hfile : file registry tree path = finish (scanText registry tree (depthBound tree)
      ⟨path, (Path.parent? path).getD ".", [place], []⟩ text) := by
    simp [file, fileFindings, hplace, htext]
  have hinclude : textFindings registry tree name (includeLine (Escape.encode path)) base =
      scanText registry tree tree.size (Site.enter ⟨name, base, [], []⟩ tree 1 path place)
        text := by
    rw [textFindings, depthBound, scanText_includeLine]
    exact includeFile_of_text hbase htext rfl List.not_mem_nil
  have hopen : OpenFiles tree (depthBound tree) [] := .whole (by simp) (by simp)
  rw [hfile, Compile.text, hinclude]
  exact agree_finish (unnamed_scanText hsame rfl (.single ⟨text, htext⟩)
    (hopen.enter List.not_mem_nil ⟨text, htext⟩))

/-! ### A script behind a link -/

/-- A script behind a link, and a file of the same name in both directories. -/
def linked : FileTree where
  base := "/scripts"
  entries :=
    [(["main.ss"], .link "real/main.ss"),
      (["real", "main.ss"], .file (includeLine (Escape.encode "part.ss"))),
      (["real", "part.ss"], .file (infoLine ["inner"])), (["part.ss"], .file (infoLine ["outer"]))]

theorem linked_walk (links : Nat) :
    linked.walk (links + 1) (.inside []) ["part.ss"] = .ok (.inside ["part.ss"]) ∧
    linked.walk (links + 1) (.inside []) ["real", "main.ss"] = .ok (.inside ["real", "main.ss"]) ∧
    linked.walk (links + 1) (.inside []) ["real", "part.ss"] = .ok (.inside ["real", "part.ss"]) ∧
    linked.walk (links + 2) (.inside []) ["main.ss"] = .ok (.inside ["real", "main.ss"]) := by
  have htop : linked.isFolder (.inside []) = true := by decide
  have hsub : linked.isFolder (.inside ["real"]) = true := by decide
  have hnames : ∀ name ∈ ["main.ss", "part.ss", "real"], FileTree.IsPlainName name := by
    decide +kernel
  simp only [List.mem_cons, List.not_mem_nil, or_false, forall_eq_or_imp, forall_eq] at hnames
  obtain ⟨hmain, hpart, hreal⟩ := hnames
  have hstart : linked.start (.inside []) "real/main.ss" = (.inside [], ["real", "main.ss"]) := by
    decide +kernel
  have hfolder : ∀ rest, linked.walk (links + 1) (.inside []) ("real" :: rest) =
      linked.walk (links + 1) (.inside ["real"]) rest := fun rest =>
    FileTree.walk_plain htop hreal rfl
  have hinner : linked.walk (links + 1) (.inside ["real"]) ["main.ss"] =
      .ok (.inside ["real", "main.ss"]) := by
    rw [FileTree.walk_plain hsub hmain rfl, FileTree.walk]
    rfl
  refine ⟨?_, ?_, ?_, ?_⟩
  · rw [FileTree.walk_plain htop hpart rfl, FileTree.walk]
    rfl
  · rw [hfolder, hinner]
  · rw [hfolder, FileTree.walk_plain hsub hpart rfl, FileTree.walk]
    rfl
  · rw [FileTree.walk_plain htop hmain rfl]
    simp only [hstart, List.append_nil]
    rw [hfolder, hinner]

theorem linked_resolve :
    linked.resolve "main.ss" = .ok (.inside ["real", "main.ss"]) ∧
    linked.resolve "./main.ss" = .ok (.inside ["real", "main.ss"]) ∧
    linked.resolve "real/main.ss" = .ok (.inside ["real", "main.ss"]) ∧
    linked.resolve "./real/main.ss" = .ok (.inside ["real", "main.ss"]) ∧
    linked.resolve "part.ss" = .ok (.inside ["part.ss"]) ∧
    linked.resolve "real/part.ss" = .ok (.inside ["real", "part.ss"]) ∧
    linked.resolve "/scripts/real/part.ss" = .ok (.inside ["real", "part.ss"]) := by
  obtain ⟨hpart, hrealMain, hrealPart, -⟩ := linked_walk 39
  obtain ⟨-, -, -, hmain⟩ := linked_walk 38
  have htop : linked.isFolder (.inside []) = true := by decide
  have hdot : ∀ rest, linked.walk FileTree.maxLinks (.inside []) ("." :: rest) =
      linked.walk FileTree.maxLinks (.inside []) rest := fun rest => FileTree.walk_dot htop
  refine ⟨?_, ?_, ?_, ?_, ?_, ?_, ?_⟩
  · exact FileTree.resolve_of_walk (by decide +kernel) (by decide +kernel) hmain
  · exact FileTree.resolve_of_walk (by decide +kernel) (by decide +kernel) ((hdot _).trans hmain)
  · exact FileTree.resolve_of_walk (by decide +kernel) (by decide +kernel) hrealMain
  · exact FileTree.resolve_of_walk (by decide +kernel) (by decide +kernel)
      ((hdot _).trans hrealMain)
  · exact FileTree.resolve_of_walk (by decide +kernel) (by decide +kernel) hpart
  · exact FileTree.resolve_of_walk (by decide +kernel) (by decide +kernel) hrealPart
  · exact FileTree.resolve_of_walk (by decide +kernel) (by decide +kernel) hrealPart

theorem linked_text :
    linked.textAt (.inside ["real", "main.ss"]) = .ok (includeLine (Escape.encode "part.ss")) ∧
    linked.textAt (.inside ["real", "part.ss"]) = .ok (infoLine ["inner"]) ∧
    linked.textAt (.inside ["part.ss"]) = .ok (infoLine ["outer"]) := ⟨rfl, rfl, rfl⟩

theorem linked_path :
    (Path.parent? "main.ss").getD "." = "" ∧ (Path.parent? "real/main.ss").getD "." = "real" ∧
    linked.pathOf (linked.above (.inside ["real", "main.ss"])) = "/scripts/real" ∧
    Path.join "." "main.ss" = "./main.ss" ∧ Path.join "." "real/main.ss" = "./real/main.ss" ∧
    Path.join "" "part.ss" = "part.ss" ∧ Path.join "real" "part.ss" = "real/part.ss" ∧
    Path.join "/scripts/real" "part.ss" = "/scripts/real/part.ss" := by
  decide +kernel

/-- A script behind a link includes another file if it is itself included. -/
theorem linked_script_disagrees :
    (file Registry.standard linked "main.ss").outcome = .ok [⟨"part.ss", 1, "info", ["outer"]⟩] ∧
    (Compile.text Registry.standard linked "text" (includeLine (Escape.encode "main.ss"))
      ".").outcome = .ok [⟨"/scripts/real/part.ss", 1, "info", ["inner"]⟩] ∧
    ¬ Agree (file Registry.standard linked "main.ss").outcome
      (Compile.text Registry.standard linked "text" (includeLine (Escape.encode "main.ss"))
        ".").outcome := by
  have hdouble : Template.double "inner" = "inner" ∧ Template.double "outer" = "outer" := by
    decide
  obtain ⟨hatMain, hatDotMain, -, -, hatPart, -, hatRealPart⟩ := linked_resolve
  obtain ⟨hmain, hrealPart, hpart⟩ := linked_text
  have hdirect : (file Registry.standard linked "main.ss").outcome =
      .ok [⟨"part.ss", 1, "info", ["outer"]⟩] := by
    simp [file, fileFindings, hatMain, hmain, show depthBound linked = 5 from rfl,
      scanText_includeLine, includeFile_of_text hatPart hpart, linked_path, Site.enter,
      scanText_infoLine, hdouble, finish, errors, instructions]
  have hincluded : (Compile.text Registry.standard linked "text"
      (includeLine (Escape.encode "main.ss")) ".").outcome =
        .ok [⟨"/scripts/real/part.ss", 1, "info", ["inner"]⟩] := by
    simp [Compile.text, textFindings, show depthBound linked = 5 from rfl, scanText_includeLine,
      includeFile_of_text hatDotMain hmain, includeFile_of_text hatRealPart hrealPart, linked_path,
      Site.enter, scanText_infoLine, hdouble, finish, errors, instructions]
  refine ⟨hdirect, hincluded, ?_⟩
  rw [hdirect, hincluded]
  intro hagree
  cases hagree with
  | ok h => simp at h

theorem included_script_agrees_real :
    Agree (file Registry.standard linked "real/main.ss").outcome
      (Compile.text Registry.standard linked "text" (includeLine (Escape.encode "real/main.ss"))
        ".").outcome := by
  obtain ⟨-, -, hatMain, hatDotMain, -, hatPart, hatSame⟩ := linked_resolve
  obtain ⟨hmain, -, -⟩ := linked_text
  refine included_script_agrees hatMain hmain ?_ ?_ "text"
  · simpa [linked_path] using hatDotMain
  · rw [lines_includeLine]
    intro raw hraw targets htargets target htarget
    rw [List.mem_singleton.mp hraw, includeTargets?_encode] at htargets
    obtain rfl := Option.some.inj htargets
    rw [List.mem_singleton.mp htarget]
    simp [linked_path, hatPart, hatSame]

end Compile

end BrowserScript
