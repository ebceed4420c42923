import BrowserScript.Arguments
import BrowserScript.Error

/-!
# Actions and their registry

An action has a name, a handler and a list of parameters.  The registry maps normalized names to
actions; it is built from definitions whose signatures are checked as they are added.
-/

namespace BrowserScript

inductive ParamKind where
  /-- Takes one positional argument. -/
  | fixed
  /-- Takes all positional arguments that are left. -/
  | variadic
  /-- Takes the option of its name. -/
  | keyword
  /-- Takes every option that no other parameter took. -/
  | variadicKeyword
  deriving DecidableEq, Repr

def ParamKind.rank : ParamKind → Nat
  | .fixed => 0
  | .variadic => 1
  | .keyword => 2
  | .variadicKeyword => 3

structure Param where
  name : String
  kind : ParamKind
  type : ValueType
  hasDefault : Bool
  deriving DecidableEq, Repr

namespace Param

def fixed (name : String) (type : ValueType) : Param := ⟨name, .fixed, type, false⟩

def variadic (name : String) (type : ValueType) : Param := ⟨name, .variadic, type, false⟩

def keyword (name : String) (type : ValueType) : Param := ⟨name, .keyword, type, true⟩

def variadicKeyword (name : String) (type : ValueType) : Param :=
  ⟨name, .variadicKeyword, type, false⟩

def withDefault (p : Param) (hasDefault : Bool) : Param := { p with hasDefault }

def usage (p : Param) : String :=
  match p.kind, p.hasDefault with
  | .fixed, false => p.name
  | .fixed, true => s!"[{p.name}]"
  | .variadic, _ => s!"{p.name}..."
  | .keyword, false => s!"--{p.name}"
  | .keyword, true => s!"[--{p.name}]"
  | .variadicKeyword, _ => s!"[--{p.name}...]"

end Param

inductive Handler where
  | debug
  | info
  | warning
  | error
  | set
  | default
  | delay
  | sleep
  | browser
  | close
  | visit
  | back
  | forward
  | refresh
  | select
  | focused
  | click
  | write
  | press
  | waitTill
  | script
  | url
  | windows
  | timeouts
  deriving DecidableEq, Repr

structure Action where
  name : String
  handler : Handler
  params : List Param
  deriving DecidableEq, Repr

namespace Action

/-- The spelling under which an action is registered: lower case, underscores for dashes. -/
def normalizeName (name : String) : String := Text.replaceChar '-' '_' (Text.lower name)

def fixedCount (a : Action) : Nat := a.params.countP (·.kind == .fixed)

def hasVariadic (a : Action) : Bool := a.params.any (·.kind == .variadic)

def excess? (a : Action) (words : List String) : Option Nat :=
  if a.hasVariadic then none
  else
    let count := (Arguments.split words).1.length
    if a.fixedCount < count then some count else none

def signature (a : Action) : String :=
  " ".intercalate (a.name :: a.params.map Param.usage)

end Action

inductive RegistryFault where
  | manyVariadic (action : String)
  | manyVariadicKeyword (action : String)
  | outOfOrder (action : String)
  | duplicateParameter (action : String)
  | unknownTarget (name target : String)
  deriving DecidableEq, Repr

def RegistryFault.message : RegistryFault → String
  | .manyVariadic action => s!"{action}: more than one variadic parameter"
  | .manyVariadicKeyword action => s!"{action}: more than one variadic keyword parameter"
  | .outOfOrder action => s!"{action}: parameters out of order"
  | .duplicateParameter action => s!"{action}: duplicate parameter name"
  | .unknownTarget name target =>
    s!"alias {Text.quoted name} refers to unregistered action {Text.quoted target}"

inductive Definition where
  | action (name : String) (handler : Handler) (params : List Param)
  /-- Another name for an action that is registered already. -/
  | synonym (name target : String)

structure Registry where
  actions : Dict Action
  deriving DecidableEq, Repr

namespace Registry

def empty : Registry := ⟨[]⟩

def get? (r : Registry) (name : String) : Option Action := Dict.get? name r.actions

def names (r : Registry) : List String := Dict.keys r.actions

/-- Whether no parameter stands before one of a lower rank that follows it directly. -/
def isOrdered : List Param → Bool
  | [] => true
  | [_] => true
  | p :: q :: rest => p.kind.rank ≤ q.kind.rank && isOrdered (q :: rest)

def hasDistinctNames : List Param → Bool
  | [] => true
  | p :: rest => rest.all (·.name != p.name) && hasDistinctNames rest

def fault? (name : String) (params : List Param) : Option RegistryFault :=
  if 1 < params.countP (·.kind == .variadic) then some (.manyVariadic name)
  else if 1 < params.countP (·.kind == .variadicKeyword) then some (.manyVariadicKeyword name)
  else if !isOrdered params then some (.outOfOrder name)
  else if !hasDistinctNames params then some (.duplicateParameter name)
  else none

/-- The registry with one definition added; an older entry of the name is replaced. -/
def add (r : Registry) : Definition → Except RegistryFault Registry
  | .action rawName handler params =>
    let name := Action.normalizeName rawName
    match fault? name params with
    | some fault => .error fault
    | none => .ok ⟨Dict.insert name ⟨name, handler, params⟩ r.actions⟩
  | .synonym rawName rawTarget =>
    let target := Action.normalizeName rawTarget
    match r.get? target with
    | none => .error (.unknownTarget rawName target)
    | some action =>
      let name := Action.normalizeName rawName
      .ok ⟨Dict.insert name { action with name } r.actions⟩

def build (definitions : List Definition) : Except RegistryFault Registry :=
  definitions.foldlM add empty

def messageParams : List Param := [.variadic "message" .text]

def assignmentParams : List Param := [.fixed "name" .text, .fixed "value" .text]

def byParam : Param := .keyword "by" .text

def timeoutParam : Param := .keyword "timeout" .duration

def intoParam : Param := .keyword "into" .text

def standardDefinitions : List Definition :=
  [.action "debug" .debug messageParams,
   .action "info" .info messageParams,
   .action "warning" .warning messageParams,
   .synonym "warn" "warning",
   .action "error" .error messageParams,
   .action "set" .set assignmentParams,
   .action "default" .default assignmentParams,
   .action "delay" .delay [.fixed "policy" .text],
   .action "sleep" .sleep [.fixed "duration" .text],
   .action "browser" .browser [.fixed "name" .text, .variadicKeyword "options" .auto],
   .action "close" .close [],
   .action "timeouts" .timeouts [.keyword "page_load" .duration, .keyword "implicit" .duration],
   .action "visit" .visit [.fixed "url" .text],
   .action "back" .back [],
   .action "forward" .forward [],
   .action "refresh" .refresh [],
   .action "url" .url [intoParam],
   .action "windows" .windows [],
   .action "select" .select [.fixed "query" .text, byParam, timeoutParam],
   .action "focused" .focused [],
   .action "click" .click [(Param.fixed "query" .text).withDefault true, byParam],
   .action "write" .write [.variadic "text" .text],
   .synonym "type" "write",
   .action "press" .press [.variadic "keys" .key],
   .action "wait_till" .waitTill
     [.fixed "condition" .text, .variadic "args" .text, timeoutParam, byParam],
   .action "script" .script [.variadic "code" .text, intoParam]]

def standard : Registry :=
  match build standardDefinitions with
  | .ok r => r
  | .error _ => empty

end Registry

end BrowserScript
