import BrowserScript.Proofs.Includes
import Mathlib.Logic.Relation

/-!
# Cycles of included files

A file includes another if one of its lines names the other and the other can be read.  The scan of
a script walks along these edges and remembers the files that it has entered and not yet left.  They
form a path from the script to the file being read, so a file that is found among them lies on a
cycle.  Conversely, from a file that leads to a cycle there is an edge to another such file.  The
scan takes it unless it reports the other as open, and the files it can enter run out.
-/

namespace BrowserScript

namespace Compile

open Relation

/-- The directory that the includes of a file start from while the script at a path is read. -/
def folderOf (tree : FileTree) (path : String) (place : Place) : String :=
  if (tree.resolve path).toOption = some place then (Path.parent? path).getD "."
  else tree.pathOf (tree.above place)

/-- One file includes another while the script at a path is read: a line of the first names the
second, and the second can be read. -/
structure Includes (tree : FileTree) (path : String) (source place : Place) : Prop where
  named : ∃ text raw targets target, tree.textAt source = .ok text ∧ raw ∈ Text.lines text ∧
    includeTargets? raw = some targets ∧ target ∈ targets ∧
    tree.resolve (Path.join (folderOf tree path source) target) = .ok place
  readable : tree.IsReadable place

/-- A file that lies on a cycle of includes and that the file `start` leads to. -/
structure CycleFrom (tree : FileTree) (path : String) (start place : Place) : Prop where
  reached : ReflTransGen (Includes tree path) start place
  cycle : TransGen (Includes tree path) place place

section Graph

variable {tree : FileTree} {path : String} {start place : Place}

/-- A file that leads to a cycle includes one that does. -/
theorem CycleFrom.exists_includes (h : CycleFrom tree path start place) :
    ∃ next, Includes tree path start next ∧ CycleFrom tree path next place := by
  rcases h.reached.cases_head with rfl | ⟨next, hedge, hreached⟩
  · obtain ⟨next, hedge, hreached⟩ := TransGen.head'_iff.mp h.cycle
    exact ⟨next, hedge, hreached, h.cycle⟩
  · exact ⟨next, hedge, hreached, h.cycle⟩

end Graph

/-! ### The files along the way -/

/-- The text of the file `current` is scanned, to which the script leads through the open files. -/
structure Walk (tree : FileTree) (path : String) (start current : Place) (site : Site)
    (text : String) : Prop where
  script : tree.resolve path = .ok start
  text : tree.textAt current = .ok text
  base : site.base = folderOf tree path current
  first : start ∈ site.opened
  last : current ∈ site.opened
  through : ∀ place ∈ site.opened, ReflTransGen (Includes tree path) start place ∧
    ReflTransGen (Includes tree path) place current

namespace Walk

variable {tree : FileTree} {path : String} {start current place : Place} {site : Site}
  {text : String}

theorem single (hstart : tree.resolve path = .ok start) (htext : tree.textAt start = .ok text) :
    Walk tree path start start ⟨path, (Path.parent? path).getD ".", [start], []⟩ text := by
  constructor
  · exact hstart
  · exact htext
  · simp [folderOf, hstart, Except.toOption]
  · exact List.mem_singleton_self start
  · exact List.mem_singleton_self start
  · intro place hplace
    rw [List.mem_singleton.mp hplace]
    exact ⟨.refl, .refl⟩

theorem includes (h : Walk tree path start current site text) {raw target : String}
    {targets : List String} (hraw : raw ∈ Text.lines text)
    (htargets : includeTargets? raw = some targets) (htarget : target ∈ targets)
    (hplace : tree.resolve (Path.join site.base target) = .ok place)
    (hreadable : tree.IsReadable place) : Includes tree path current place := by
  rw [h.base] at hplace
  exact ⟨⟨text, raw, targets, target, h.text, hraw, htargets, htarget, hplace⟩, hreadable⟩

/-- A file that is included while it is open lies on a cycle. -/
theorem cycleFrom (h : Walk tree path start current site text)
    (hedge : Includes tree path current place) (hopen : place ∈ site.opened) :
    CycleFrom tree path start place := by
  obtain ⟨hbefore, hafter⟩ := h.through place hopen
  exact ⟨hbefore, .tail' hafter hedge⟩

/-- A file that is not open yet is entered. -/
theorem enter (h : Walk tree path start current site text)
    (hedge : Includes tree path current place) (hnew : place ∉ site.opened) {inner : String}
    (hinner : tree.textAt place = .ok inner) (line : Nat) (target : String) :
    Walk tree path start place (site.enter tree line target place) inner := by
  have hother : start ≠ place := by
    rintro rfl
    exact hnew h.first
  constructor
  · exact h.script
  · exact hinner
  · simp [folderOf, h.script, Except.toOption, hother, Site.enter]
  · exact List.mem_append_left _ h.first
  · exact List.mem_append_right _ (List.mem_singleton_self place)
  · intro other hmem
    rcases List.mem_append.mp hmem with hmem | hmem
    · obtain ⟨hbefore, hafter⟩ := h.through other hmem
      exact ⟨hbefore, hafter.tail hedge⟩
    · rw [List.mem_singleton.mp hmem]
      exact ⟨(h.through current h.last).1.tail hedge, .refl⟩

end Walk

/-! ### Reports -/

def Finding.recursive? : Finding → Option String
  | .error ⟨_, _, .recursiveInclude target⟩ _ => some target
  | _ => none

theorem recursive?_error_iff {e : CompileError} {spans : List Log.Span} {target : String} :
    (Finding.error e spans).recursive? = some target ↔ e.fault = .recursiveInclude target := by
  obtain ⟨source, line, fault⟩ := e
  cases fault <;> simp [Finding.recursive?]

theorem statement_ne_recursive (registry : Registry) (raw target : String) :
    statement registry raw ≠ .fault (.recursiveInclude target) := by
  fun_cases statement registry raw <;> simp_all

theorem recursive?_eq_none_of_plain {registry : Registry} {raw : String} {site : Site}
    {line : Nat} {f : Finding} (h : f ∈ (statement registry raw).findings site line) :
    f.recursive? = none := by
  cases hs : statement registry raw with
  | nothing =>
    rw [hs] at h
    nomatch h
  | fault fault =>
    rw [hs] at h
    rw [List.mem_singleton.mp h]
    cases fault with
    | recursiveInclude target => exact absurd hs (statement_ne_recursive registry raw target)
    | _ => rfl
  | action name args =>
    rw [hs] at h
    rw [List.mem_singleton.mp h]
    rfl

section Scan

variable {registry : Registry} {tree : FileTree} {path : String} {start current : Place}
  {site : Site} {text : String} {depth : Nat}

/-- What is reported as recursive lies on a cycle. -/
theorem cycle_of_recursive (hopen : OpenFiles tree depth site.opened)
    (hwalk : Walk tree path start current site text) {f : Finding}
    (hf : f ∈ scanText registry tree depth site text) {target : String}
    (htarget : f.recursive? = some target) :
    ∃ place, tree.resolve target = .ok place ∧ CycleFrom tree path start place := by
  induction depth generalizing site text current with
  | zero => nomatch hf
  | succ depth ih =>
    obtain ⟨raw, hraw, line, hf⟩ := mem_scanLines hf
    cases htargets : includeTargets? raw with
    | none =>
      rw [scanLine_of_plain htargets] at hf
      rw [recursive?_eq_none_of_plain hf] at htarget
      nomatch htarget
    | some targets =>
      rw [scanLine_of_include htargets] at hf
      obtain ⟨named, hnamed, hf⟩ := List.mem_flatMap.mp hf
      rcases includeFile_cases tree (scanText registry tree depth) site line named with
        ⟨fault, -, hmissing⟩ | ⟨place, hplace, hopened | ⟨hnew, inner, hinner⟩⟩
      · rw [hmissing] at hf
        rw [List.mem_singleton.mp hf] at htarget
        nomatch htarget
      · have hedge := hwalk.includes hraw htargets hnamed hplace (hopen.readable place hopened)
        rw [includeFile_of_open hplace hopened] at hf
        rw [List.mem_singleton.mp hf] at htarget
        rw [← Option.some.inj htarget]
        exact ⟨place, hplace, hwalk.cycleFrom hedge hopened⟩
      · have hedge := hwalk.includes hraw htargets hnamed hplace ⟨inner, hinner⟩
        rw [includeFile_of_text hplace hinner rfl hnew] at hf
        exact ih (hopen.enter hnew ⟨inner, hinner⟩) (hwalk.enter hedge hnew hinner line named) hf

/-- A file that leads to a cycle is not scanned without a report. -/
theorem exists_recursive_of_cycle (hopen : OpenFiles tree depth site.opened)
    (hwalk : Walk tree path start current site text) {place : Place}
    (hcycle : CycleFrom tree path current place) :
    ∃ f ∈ scanText registry tree depth site text, ∃ target, f.recursive? = some target := by
  induction depth generalizing site text current with
  | zero => exact absurd rfl hopen.depth_ne_zero
  | succ depth ih =>
    obtain ⟨next, hedge, hnext⟩ := hcycle.exists_includes
    obtain ⟨source, raw, targets, named, hsource, hraw, htargets, hnamed, hplace⟩ := hedge.named
    obtain rfl : source = text := Except.ok.inj (hsource.symm.trans hwalk.text)
    rw [← hwalk.base] at hplace
    obtain ⟨line, hfile⟩ : ∃ line, includeFile tree (scanText registry tree depth) site line named ⊆
        scanText registry tree (depth + 1) site source :=
      exists_includeFile_subset hraw htargets hnamed 1
    by_cases hopened : next ∈ site.opened
    · rw [includeFile_of_open hplace hopened] at hfile
      exact ⟨_, hfile (List.mem_singleton_self _), _, rfl⟩
    · obtain ⟨inner, hinner⟩ := hedge.readable
      rw [includeFile_of_text hplace hinner rfl hopened] at hfile
      have hinside := hwalk.enter hedge hopened hinner line named
      obtain ⟨f, hf, hrecursive⟩ := ih (hopen.enter hopened ⟨inner, hinner⟩) hinside hnext
      exact ⟨f, hfile hf, hrecursive⟩

end Scan

def Result.reported (result : Result) : List CompileError :=
  match result.outcome with
  | .error (.compile es) => es
  | _ => []

theorem reported_finish (findings : List Finding) :
    (finish findings).reported = errors findings := by
  unfold finish Result.reported
  cases hes : errors findings with
  | nil => rfl
  | cons e es => rfl

theorem mem_errors_iff {findings : List Finding} {e : CompileError} :
    e ∈ errors findings ↔ ∃ spans, Finding.error e spans ∈ findings := by
  unfold errors
  rw [List.mem_filterMap]
  constructor
  · rintro ⟨f, hf, he⟩
    cases f with
    | instruction i => nomatch he
    | error e' spans => exact ⟨spans, Option.some.inj he ▸ hf⟩
  · rintro ⟨spans, hf⟩
    exact ⟨_, hf, rfl⟩

theorem reported_of_unreadable {registry : Registry} {tree : FileTree} {path : String}
    {fault : FileFault} (h : fileFindings registry tree path = .error (.file path fault)) :
    (file registry tree path).reported = [] := by
  simp [file, h, Result.reported]

theorem reported_of_findings {registry : Registry} {tree : FileTree} {path : String}
    {findings : List Finding} (h : fileFindings registry tree path = .ok findings) :
    (file registry tree path).reported = errors findings := by
  simp [file, h, reported_finish]

theorem exists_cycle_of_reported {registry : Registry} {tree : FileTree} {path target : String}
    {e : CompileError} (he : e ∈ (file registry tree path).reported)
    (htarget : e.fault = .recursiveInclude target) :
    ∃ start place, tree.resolve path = .ok start ∧ tree.resolve target = .ok place ∧
      CycleFrom tree path start place := by
  rcases fileFindings_cases registry tree path with
    ⟨fault, hfault⟩ | ⟨start, text, hstart, htext, hfindings⟩
  · rw [reported_of_unreadable hfault] at he
    nomatch he
  · rw [reported_of_findings hfindings] at he
    obtain ⟨spans, hf⟩ := mem_errors_iff.mp he
    obtain ⟨place, hplace, hcycle⟩ := cycle_of_recursive (.single ⟨text, htext⟩)
      (.single hstart htext) hf (recursive?_error_iff.mpr htarget)
    exact ⟨start, place, hstart, hplace, hcycle⟩

theorem exists_reported_of_cycle {registry : Registry} {tree : FileTree} {path : String}
    {start place : Place} (hstart : tree.resolve path = .ok start)
    (hcycle : CycleFrom tree path start place) :
    ∃ e ∈ (file registry tree path).reported, ∃ target, e.fault = .recursiveInclude target := by
  obtain ⟨next, hedge, -⟩ := hcycle.exists_includes
  obtain ⟨text, -, -, -, htext, -⟩ := hedge.named
  have hfindings : fileFindings registry tree path = .ok (scanText registry tree (depthBound tree)
      ⟨path, (Path.parent? path).getD ".", [start], []⟩ text) := by
    simp [fileFindings, hstart, htext]
  obtain ⟨f, hf, target, htarget⟩ : ∃ f ∈ scanText registry tree (depthBound tree) _ text,
      ∃ target, f.recursive? = some target :=
    exists_recursive_of_cycle (.single ⟨text, htext⟩) (.single hstart htext) hcycle
  cases f with
  | instruction i => nomatch htarget
  | error e spans =>
    rw [reported_of_findings hfindings]
    exact ⟨e, mem_errors_iff.mpr ⟨spans, hf⟩, target, recursive?_error_iff.mp htarget⟩

/-- The compilation of a script reports a recursive inclusion if and only if the script leads to a
cycle of includes.  Each file reported as such lies on a cycle, so a file that never includes
itself, directly or through others, is not reported however often it is included. -/
theorem recursive_include_iff_cycle (registry : Registry) (tree : FileTree) (path : String) :
    ((∃ e ∈ (file registry tree path).reported, ∃ target, e.fault = .recursiveInclude target) ↔
      ∃ start place, tree.resolve path = .ok start ∧ CycleFrom tree path start place) ∧
    ∀ e ∈ (file registry tree path).reported, ∀ target, e.fault = .recursiveInclude target →
      ∃ start place, tree.resolve path = .ok start ∧ tree.resolve target = .ok place ∧
        CycleFrom tree path start place := by
  refine ⟨⟨?_, ?_⟩, fun e he target htarget => exists_cycle_of_reported he htarget⟩
  · rintro ⟨e, he, target, htarget⟩
    obtain ⟨start, place, hstart, -, hcycle⟩ := exists_cycle_of_reported he htarget
    exact ⟨start, place, hstart, hcycle⟩
  · rintro ⟨start, place, hstart, hcycle⟩
    exact exists_reported_of_cycle hstart hcycle

end Compile

end BrowserScript
