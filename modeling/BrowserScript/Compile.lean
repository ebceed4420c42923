import BrowserScript.Escape
import BrowserScript.FileTree
import BrowserScript.Log
import BrowserScript.Registry
import BrowserScript.Text.Lines
import BrowserScript.Words

/-!
# Compiling scripts

A script is read line by line.  A line names a registered action with its words, or the directive
that includes other files in its place.  Faults do not stop the reading: everything found is listed
in order, and the script compiles if no fault is among it.
-/

namespace BrowserScript

structure Instruction where
  source : String
  line : Nat
  action : String
  args : List String
  deriving DecidableEq, Repr

namespace Compile

inductive Finding where
  | instruction (i : Instruction)
  /-- An error and the spans in which it was found. -/
  | error (e : CompileError) (spans : List Log.Span)
  deriving DecidableEq, Repr

/-- The text being read: its name, the directory that its includes start from, the files that are
being read, outermost first, and the spans around it. -/
structure Site where
  source : String
  base : String
  opened : List Place
  spans : List Log.Span

def sourceSpan (source : String) : Log.Span :=
  ⟨"compile", .debug, .compiler, [("source", .text source)]⟩

def lineSpan (line : Nat) : Log.Span := ⟨"line", .trace, .compiler, [("line", .number line)]⟩

def Site.spansAt (site : Site) (line : Nat) : List Log.Span :=
  site.spans ++ [sourceSpan site.source, lineSpan line]

def Site.report (site : Site) (line : Nat) (fault : CompileFault) : List Finding :=
  [.error ⟨site.source, line, fault⟩ (site.spansAt line)]

def includeFile (tree : FileTree) (scan : Site → String → List Finding) (site : Site) (line : Nat)
    (target : String) : List Finding :=
  let path := Path.join site.base target
  match tree.resolve path with
  | .error fault => site.report line (.missingInclude path fault.message)
  | .ok place =>
    if place ∈ site.opened then site.report line (.recursiveInclude path)
    else match tree.textAt place with
      | .error fault => site.report line (.missingInclude path fault.message)
      | .ok text =>
        scan ⟨path, tree.pathOf (tree.above place), site.opened ++ [place], site.spansAt line⟩ text

def directive (tree : FileTree) (scan : Site → String → List Finding) (site : Site) (line : Nat)
    (name : String) (args : List String) : List Finding :=
  if name ≠ "@include" then site.report line (.unknownDirective name)
  else if args.isEmpty then site.report line (.malformed "@include expects at least one path")
  else args.flatMap fun arg => includeFile tree scan site line (Escape.decode arg)

def actionLine (registry : Registry) (site : Site) (line : Nat) (head name : String)
    (args : List String) : List Finding :=
  match registry.get? name with
  | none => site.report line (.unknownAction head)
  | some action =>
    match action.excess? args with
    | some given => site.report line (.tooManyArguments given action.signature)
    | none => [.instruction ⟨site.source, line, name, args.map Escape.decode⟩]

def isIdle (trimmed : String) : Bool :=
  trimmed.isEmpty || trimmed.toList.head? == some '#'

def scanLine (registry : Registry) (tree : FileTree) (scan : Site → String → List Finding)
    (site : Site) (line : Nat) (raw : String) : List Finding :=
  let trimmed := Text.trim raw
  if isIdle trimmed then []
  else match Words.split trimmed with
    | .error e => site.report line (.malformed e.message)
    | .ok [] => []
    | .ok (head :: args) =>
      let name := Action.normalizeName head
      if name.toList.head? == some '@' then directive tree scan site line name args
      else actionLine registry site line head name args

def scanLines (registry : Registry) (tree : FileTree) (scan : Site → String → List Finding)
    (site : Site) : Nat → List String → List Finding
  | _, [] => []
  | first, raw :: rest =>
    scanLine registry tree scan site first raw ++
      scanLines registry tree scan site (first + 1) rest

def scanText (registry : Registry) (tree : FileTree) : Nat → Site → String → List Finding
  | 0, _, _ => []
  | depth + 1, site, text =>
    scanLines registry tree (scanText registry tree depth) site 1 (Text.lines text)

/-- A depth that no chain of includes exceeds: each file of the chain is another one. -/
def depthBound (tree : FileTree) : Nat := tree.size + 1

def instructions (findings : List Finding) : List Instruction :=
  findings.filterMap fun
    | .instruction i => some i
    | .error .. => none

def errors (findings : List Finding) : List CompileError :=
  findings.filterMap fun
    | .instruction _ => none
    | .error e _ => some e

def errorEntries (findings : List Finding) : List Log.Entry :=
  findings.filterMap fun
    | .instruction _ => none
    | .error e spans => some ⟨.error, .compiler, spans, e.message, []⟩

structure Result where
  outcome : Except ScriptError (List Instruction)
  log : List Log.Entry

/-- The result of what was found: the instructions, unless there is an error. -/
def finish (findings : List Finding) : Result :=
  let is := instructions findings
  let es := errors findings
  let last : Log.Entry :=
    if es.isEmpty then
      ⟨.debug, .compiler, [], "compiled", [("tokens", .shown (toString is.length))]⟩
    else ⟨.error, .compiler, [], "script failed during compilation", []⟩
  ⟨if es.isEmpty then .ok is else .error (.compile es), errorEntries findings ++ [last]⟩

/-- What a text with a name yields; its includes start from the directory `base`. -/
def textFindings (registry : Registry) (tree : FileTree) (name text base : String) : List Finding :=
  scanText registry tree (depthBound tree) ⟨name, base, [], []⟩ text

/-- Compiles a text with a name; its includes start from the directory `base`. -/
def text (registry : Registry) (tree : FileTree) (name text base : String) : Result :=
  finish (textFindings registry tree name text base)

/-- What the file at a path yields; its includes start from its directory. -/
def fileFindings (registry : Registry) (tree : FileTree) (path : String) :
    Except ScriptError (List Finding) :=
  match tree.resolve path with
  | .error fault => .error (.file path fault)
  | .ok place =>
    match tree.textAt place with
    | .error fault => .error (.file path fault)
    | .ok text =>
      let site : Site := ⟨path, (Path.parent? path).getD ".", [place], []⟩
      .ok (scanText registry tree (depthBound tree) site text)

/-- Compiles the file at a path; its includes start from its directory. -/
def file (registry : Registry) (tree : FileTree) (path : String) : Result :=
  match fileFindings registry tree path with
  | .error e => ⟨.error e, []⟩
  | .ok findings => finish findings

end Compile

end BrowserScript
