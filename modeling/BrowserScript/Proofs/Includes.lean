import BrowserScript.Compile
import Mathlib.Data.List.Perm.Subperm

/-!
# Included files

What a line of a script asks for is decided by its words alone: it includes the files that it names,
or it is a statement that stands for itself.  The scan of a text is the same for both, so what is
proved about it needs no second look at the words.

The files that are open while a text is scanned are different files of the tree.  There are at most
as many as the tree lists, so the depth that the scan starts with is never used up.
-/

namespace BrowserScript

namespace Compile

/-- The paths that a line includes, as it writes them; `none` if the line is no inclusion. -/
def includeTargets? (raw : String) : Option (List String) :=
  let trimmed := Text.trim raw
  if isIdle trimmed then none
  else match Words.split trimmed with
    | .ok (head :: args) =>
      if Action.normalizeName head = "@include" ∧ args ≠ [] then some (args.map Escape.decode)
      else none
    | _ => none

inductive Statement where
  | nothing
  | fault (f : CompileFault)
  | action (name : String) (args : List String)
  deriving DecidableEq, Repr

def statement (registry : Registry) (raw : String) : Statement :=
  let trimmed := Text.trim raw
  if isIdle trimmed then .nothing
  else match Words.split trimmed with
    | .error e => .fault (.malformed e.message)
    | .ok [] => .nothing
    | .ok (head :: args) =>
      let name := Action.normalizeName head
      if name.toList.head? == some '@' then
        if name ≠ "@include" then .fault (.unknownDirective name)
        else .fault (.malformed "@include expects at least one path")
      else match registry.get? name with
        | none => .fault (.unknownAction head)
        | some action =>
          match action.excess? args with
          | some given => .fault (.tooManyArguments given action.signature)
          | none => .action name (args.map Escape.decode)

namespace Statement

def findings (site : Site) (line : Nat) : Statement → List Finding
  | .nothing => []
  | .fault f => site.report line f
  | .action name args => [.instruction ⟨site.source, line, name, args⟩]

end Statement

section Scan

variable {registry : Registry} {tree : FileTree} {scan : Site → String → List Finding}
  {site : Site} {raw : String}

theorem words_of_include {targets : List String} (h : includeTargets? raw = some targets) :
    isIdle (Text.trim raw) = false ∧ ∃ head words,
      Words.split (Text.trim raw) = .ok (head :: words) ∧
      Action.normalizeName head = "@include" ∧ targets = words.map Escape.decode := by
  unfold includeTargets? at h
  dsimp only at h
  split at h
  · nomatch h
  · rename_i hidle
    split at h
    · rename_i head words hwords
      split at h
      · rename_i hhead
        exact ⟨Bool.not_eq_true _ ▸ hidle, head, words, hwords, hhead.1, (Option.some.inj h).symm⟩
      · nomatch h
    · nomatch h

theorem words_of_action {name : String} {args : List String}
    (h : statement registry raw = .action name args) :
    isIdle (Text.trim raw) = false ∧ ∃ head words action,
      Words.split (Text.trim raw) = .ok (head :: words) ∧ Action.normalizeName head = name ∧
      registry.get? name = some action ∧ action.excess? words = none ∧
      args = words.map Escape.decode := by
  unfold statement at h
  dsimp only at h
  split at h
  · nomatch h
  · rename_i hidle
    split at h
    · nomatch h
    · nomatch h
    · rename_i head words hwords
      split at h
      · split at h <;> nomatch h
      · split at h
        · nomatch h
        · rename_i action haction
          split at h
          · nomatch h
          · rename_i hexcess
            obtain ⟨rfl, rfl⟩ := Statement.action.inj h
            exact ⟨Bool.not_eq_true _ ▸ hidle, head, words, action, hwords, rfl, haction, hexcess,
              rfl⟩

theorem scanLine_of_include {targets : List String} (h : includeTargets? raw = some targets)
    (line : Nat) :
    scanLine registry tree scan site line raw =
      targets.flatMap (includeFile tree scan site line) := by
  unfold includeTargets? at h
  unfold scanLine
  dsimp only at h ⊢
  by_cases hidle : isIdle (Text.trim raw) = true
  · simp [hidle] at h
  · rw [if_neg hidle] at h ⊢
    rcases hsplit : Words.split (Text.trim raw) with e | ⟨_ | ⟨head, args⟩⟩
    · simp [hsplit] at h
    · simp [hsplit] at h
    · simp only [hsplit] at h ⊢
      split at h
      · rename_i hhead
        obtain ⟨hname, hargs⟩ := hhead
        obtain rfl := Option.some.inj h
        simp [hname, directive, hargs, List.flatMap_map]
      · nomatch h

theorem scanLine_of_plain (h : includeTargets? raw = none) (line : Nat) :
    scanLine registry tree scan site line raw = (statement registry raw).findings site line := by
  unfold includeTargets? at h
  unfold scanLine statement
  dsimp only at h ⊢
  by_cases hidle : isIdle (Text.trim raw) = true
  · simp [hidle, Statement.findings]
  · rw [if_neg hidle] at h ⊢
    rw [if_neg hidle]
    rcases hsplit : Words.split (Text.trim raw) with e | ⟨_ | ⟨head, args⟩⟩
    · rfl
    · rfl
    · simp only [hsplit] at h ⊢
      by_cases hmark : ((Action.normalizeName head).toList.head? == some '@') = true
      · rw [if_pos hmark, if_pos hmark, directive]
        by_cases hname : Action.normalizeName head = "@include"
        · have hargs : args = [] := by simpa [hname] using h
          simp [hname, hargs, Statement.findings]
        · simp [hname, Statement.findings]
      · rw [if_neg hmark, if_neg hmark, actionLine]
        cases registry.get? (Action.normalizeName head) with
        | none => rfl
        | some action => cases hexcess : action.excess? args <;> simp [hexcess, Statement.findings]

theorem exists_line_of_mem_scanLines {lines : List String} {first : Nat} {f : Finding}
    (h : f ∈ scanLines registry tree scan site first lines) :
    ∃ k raw, lines[k]? = some raw ∧ f ∈ scanLine registry tree scan site (first + k) raw := by
  induction lines generalizing first with
  | nil => nomatch h
  | cons raw rest ih =>
    rcases List.mem_append.mp h with h | h
    · exact ⟨0, raw, rfl, h⟩
    · obtain ⟨k, other, hother, hfound⟩ := ih h
      rw [Nat.add_assoc, Nat.add_comm 1] at hfound
      exact ⟨k + 1, other, hother, hfound⟩

theorem mem_scanLines {lines : List String} {first : Nat} {f : Finding}
    (h : f ∈ scanLines registry tree scan site first lines) :
    ∃ raw ∈ lines, ∃ line, f ∈ scanLine registry tree scan site line raw := by
  obtain ⟨k, raw, hraw, hfound⟩ := exists_line_of_mem_scanLines h
  exact ⟨raw, List.mem_of_getElem? hraw, first + k, hfound⟩

theorem exists_includeFile_subset {lines targets : List String} {target : String}
    (hraw : raw ∈ lines) (htargets : includeTargets? raw = some targets)
    (htarget : target ∈ targets) (first : Nat) :
    ∃ line, includeFile tree scan site line target ⊆
      scanLines registry tree scan site first lines := by
  induction lines generalizing first with
  | nil => nomatch hraw
  | cons other rest ih =>
    rcases List.mem_cons.mp hraw with rfl | hraw
    · have hline : includeFile tree scan site first target ⊆
          scanLine registry tree scan site first raw := by
        intro f hf
        rw [scanLine_of_include htargets]
        exact List.mem_flatMap.mpr ⟨target, htarget, hf⟩
      exact ⟨first, List.subset_append_of_subset_left _ hline⟩
    · obtain ⟨line, hline⟩ := ih hraw (first + 1)
      exact ⟨line, List.subset_append_of_subset_right _ hline⟩

def Site.enter (site : Site) (tree : FileTree) (line : Nat) (target : String) (place : Place) :
    Site :=
  ⟨Path.join site.base target, tree.pathOf (tree.above place), site.opened ++ [place],
    site.spansAt line⟩

theorem includeFile_of_open {line : Nat} {target : String} {place : Place}
    (hplace : tree.resolve (Path.join site.base target) = .ok place) (hopen : place ∈ site.opened) :
    includeFile tree scan site line target =
      site.report line (.recursiveInclude (Path.join site.base target)) := by
  unfold includeFile
  simp only [hplace, hopen, if_true]

theorem includeFile_of_text {line : Nat} {path target text : String} {place : Place}
    (hplace : tree.resolve path = .ok place) (htext : tree.textAt place = .ok text)
    (hpath : Path.join site.base target = path) (hnew : place ∉ site.opened) :
    includeFile tree scan site line target = scan (site.enter tree line target place) text := by
  unfold includeFile
  simp only [hpath, hplace, hnew, htext, if_false, Site.enter]

/-- An inclusion either reports a missing file, or finds its file open, or scans its text. -/
theorem includeFile_cases (tree : FileTree) (scan : Site → String → List Finding) (site : Site)
    (line : Nat) (target : String) :
    (∃ fault, tree.read (Path.join site.base target) = .error fault ∧
      includeFile tree scan site line target =
        site.report line (.missingInclude (Path.join site.base target) fault.message)) ∨
    ∃ place, tree.resolve (Path.join site.base target) = .ok place ∧
      (place ∈ site.opened ∨
        place ∉ site.opened ∧ ∃ text, tree.textAt place = .ok text) := by
  unfold includeFile FileTree.read
  dsimp only
  cases hplace : tree.resolve (Path.join site.base target) with
  | error fault => exact .inl ⟨fault, rfl, rfl⟩
  | ok place =>
    by_cases hopen : place ∈ site.opened
    · exact .inr ⟨place, rfl, .inl hopen⟩
    · cases htext : tree.textAt place with
      | error fault => exact .inl ⟨fault, htext, by simp [hopen, htext]⟩
      | ok text => exact .inr ⟨place, rfl, .inr ⟨hopen, text, htext⟩⟩

/-- An instruction is what some line says. -/
theorem statement_of_instruction {depth : Nat} {text : String} {i : Instruction}
    (h : .instruction i ∈ scanText registry tree depth site text) :
    ∃ raw, statement registry raw = .action i.action i.args := by
  induction depth generalizing site text with
  | zero => nomatch h
  | succ depth ih =>
    obtain ⟨raw, -, line, h⟩ := mem_scanLines h
    cases htargets : includeTargets? raw with
    | none =>
      rw [scanLine_of_plain htargets] at h
      cases hs : statement registry raw with
      | nothing => simp [hs, Statement.findings] at h
      | fault f => simp [hs, Statement.findings, Site.report] at h
      | action name args =>
        have hi : i = ⟨site.source, line, name, args⟩ := by simpa [hs, Statement.findings] using h
        exact ⟨raw, by rw [hs, hi]⟩
    | some targets =>
      rw [scanLine_of_include htargets] at h
      obtain ⟨target, -, h⟩ := List.mem_flatMap.mp h
      rcases includeFile_cases tree (scanText registry tree depth) site line target with
        ⟨fault, -, hmissing⟩ | ⟨place, hplace, hopened | ⟨hnew, inner, hinner⟩⟩
      · simp [hmissing, Site.report] at h
      · simp [includeFile_of_open hplace hopened, Site.report] at h
      · rw [includeFile_of_text hplace hinner rfl hnew] at h
        exact ih h

theorem mem_instructions_iff {findings : List Finding} {i : Instruction} :
    i ∈ instructions findings ↔ .instruction i ∈ findings := by
  unfold instructions
  rw [List.mem_filterMap]
  constructor
  · rintro ⟨f, hf, hi⟩
    cases f with
    | instruction j => exact Option.some.inj hi ▸ hf
    | error e spans => nomatch hi
  · intro hi
    exact ⟨_, hi, rfl⟩

/-- A file either cannot be read or its text is scanned as the only open one. -/
theorem fileFindings_cases (registry : Registry) (tree : FileTree) (path : String) :
    (∃ fault, fileFindings registry tree path = .error (.file path fault)) ∨
    ∃ place text, tree.resolve path = .ok place ∧ tree.textAt place = .ok text ∧
      fileFindings registry tree path = .ok (scanText registry tree (depthBound tree)
        ⟨path, (Path.parent? path).getD ".", [place], []⟩ text) := by
  unfold fileFindings
  cases hplace : tree.resolve path with
  | error fault => exact .inl ⟨fault, rfl⟩
  | ok place =>
    cases htext : tree.textAt place with
    | error fault => exact .inl ⟨fault, by simp [htext]⟩
    | ok text => exact .inr ⟨place, text, rfl, htext, by simp [htext]⟩

end Scan

end Compile

/-! ### Following paths -/

namespace FileTree

variable {tree : FileTree}

/-- A name that leads from a directory to what it holds. -/
def IsPlainName (name : String) : Prop :=
  name ∉ ["", ".", ".."] ∧ name.utf8ByteSize ≤ maxNameBytes

instance (name : String) : Decidable (IsPlainName name) := inferInstanceAs (Decidable (_ ∧ _))

theorem walk_plain {links : Nat} {upper rest : List String} {name : String} {node : Node}
    (hfolder : tree.isFolder (.inside upper) = true) (hname : IsPlainName name)
    (hnode : tree.node? (upper ++ [name]) = some node) :
    tree.walk (links + 1) (.inside upper) (name :: rest) =
      match node with
      | .link target =>
        let (here, more) := tree.start (.inside upper) target
        tree.walk links here (more ++ rest)
      | _ => tree.walk (links + 1) (.inside (upper ++ [name])) rest := by
  obtain ⟨hspecial, hsize⟩ := hname
  simp only [List.mem_cons, List.not_mem_nil, or_false, not_or] at hspecial
  rw [walk.eq_def]
  simp only [hfolder, hspecial, hnode, Nat.not_lt.mpr hsize, Bool.not_true, Bool.false_eq_true,
    or_self, if_false]
  cases node <;> rfl

theorem walk_dot {links : Nat} {here : Place} {rest : List String}
    (hfolder : tree.isFolder here = true) :
    tree.walk links here ("." :: rest) = tree.walk links here rest := by
  rw [walk.eq_def]
  simp [hfolder]

theorem resolve_of_walk {path : String} {names : List String} {here place : Place}
    (hpath : path.toList.any (·.toNat == 0) = false ∧ path.isEmpty = false ∧
      path.utf8ByteSize ≤ maxPathBytes)
    (hstart : tree.start (.inside tree.here) path = (here, names))
    (hwalk : tree.walk maxLinks here names = .ok place) : tree.resolve path = .ok place := by
  obtain ⟨hnul, hempty, hsize⟩ := hpath
  simp [resolve, hnul, hempty, Nat.not_lt.mpr hsize, hstart, hwalk]

end FileTree

/-! ### The files that are open -/

namespace FileTree

def IsReadable (tree : FileTree) (place : Place) : Prop := ∃ text, tree.textAt place = .ok text

def files (tree : FileTree) : List Place :=
  tree.entries.filterMap fun entry =>
    match entry.2 with
    | .file _ => some (.inside entry.1)
    | _ => none

theorem IsReadable.mem_files {tree : FileTree} {place : Place} (h : tree.IsReadable place) :
    place ∈ tree.files := by
  obtain ⟨text, htext⟩ := h
  cases place with
  | outside => nomatch htext
  | inside names =>
    cases hfind : tree.entries.find? (·.1 == names) with
    | none =>
      -- Only directories are there without being listed.
      simp only [textAt, node?, hfind] at htext
      split at htext <;> simp_all
    | some entry =>
      obtain ⟨listed, node⟩ := entry
      have hnames : listed = names := by simpa using List.find?_some hfind
      subst hnames
      refine List.mem_filterMap.mpr ⟨_, List.mem_of_find?_eq_some hfind, ?_⟩
      simp only [textAt, node?, hfind] at htext
      cases node <;> simp_all

/-- There are no more readable places than files. -/
theorem length_le_files {tree : FileTree} {places : List Place} (hnodup : places.Nodup)
    (hreadable : ∀ place ∈ places, tree.IsReadable place) : places.length ≤ tree.files.length := by
  have hsubset : places ⊆ tree.files := fun place hplace => (hreadable place hplace).mem_files
  exact (List.subperm_of_subset hnodup hsubset).length_le

/-- There are no more readable places than the tree lists. -/
theorem length_le_size {tree : FileTree} {places : List Place} (hnodup : places.Nodup)
    (hreadable : ∀ place ∈ places, tree.IsReadable place) : places.length ≤ tree.size :=
  Nat.le_trans (length_le_files hnodup hreadable) (List.length_filterMap_le _ _)

end FileTree

namespace Compile

/-- The files that are open while a text is scanned: each is another file of the tree, and the depth
that is left covers all others. -/
structure OpenFiles (tree : FileTree) (depth : Nat) (opened : List Place) : Prop where
  nodup : opened.Nodup
  readable : ∀ place ∈ opened, tree.IsReadable place
  room : tree.size < depth + opened.length

namespace OpenFiles

variable {tree : FileTree} {depth : Nat} {opened : List Place} {place : Place}

theorem depth_ne_zero (h : OpenFiles tree depth opened) : depth ≠ 0 := by
  have hlength := FileTree.length_le_size h.nodup h.readable
  have hroom := h.room
  omega

/-- The whole depth covers whatever files are open. -/
theorem whole (hnodup : opened.Nodup) (hreadable : ∀ place ∈ opened, tree.IsReadable place) :
    OpenFiles tree (depthBound tree) opened := by
  constructor
  · exact hnodup
  · exact hreadable
  · rw [depthBound]
    omega

theorem single (hreadable : tree.IsReadable place) : OpenFiles tree (depthBound tree) [place] :=
  whole (by simp) (by simpa using hreadable)

/-- A file that is not open yet can be opened. -/
theorem enter (h : OpenFiles tree (depth + 1) opened) (hnew : place ∉ opened)
    (hreadable : tree.IsReadable place) : OpenFiles tree depth (opened ++ [place]) := by
  constructor
  · rw [List.nodup_append]
    have hother : ∀ other ∈ opened, ∀ last ∈ [place], other ≠ last := by
      rintro other hother last hlast rfl
      rw [List.mem_singleton.mp hlast] at hother
      exact hnew hother
    exact ⟨h.nodup, by simp, hother⟩
  · intro other hother
    rcases List.mem_append.mp hother with hother | hother
    · exact h.readable other hother
    · rw [List.mem_singleton.mp hother]
      exact hreadable
  · have hroom := h.room
    rw [List.length_append, List.length_singleton]
    omega

end OpenFiles

end Compile

end BrowserScript
