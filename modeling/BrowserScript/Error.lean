import BrowserScript.Value

/-!
# Errors

Everything that can go wrong while a script is compiled or run, as causes; the wording of each
cause stands in one function beside it.  A compile error is pinned to a line of a source; a run
ends in the first `ScriptError` that one of its steps meets.
-/

namespace BrowserScript

inductive BrowserError where
  | noSuchElement (what : String)
  | staleElement
  /-- An error reply of the remote end. -/
  | protocol (error message : String)
  /-- A request that could not be sent or a reply that could not be read. -/
  | transport (reason : String)
  | notConnected
  | unsupported (what : String)
  deriving DecidableEq, Repr

def BrowserError.message : BrowserError → String
  | .noSuchElement what => s!"no such element: {what}"
  | .staleElement => "stale element reference"
  | .protocol error message => s!"webdriver error {error}: {message}"
  | .transport reason => s!"webdriver transport: {reason}"
  | .notConnected => "no browser session"
  | .unsupported what => s!"{what} is not supported by this backend"

inductive FileFault where
  | notFound
  | notDirectory
  | isDirectory
  | nameTooLong
  | tooManyLinks
  /-- A zero character in the path. -/
  | nulByte
  /-- Content that is no text. -/
  | notText
  deriving DecidableEq, Repr

def FileFault.message : FileFault → String
  | .notFound => "No such file or directory (os error 2)"
  | .notDirectory => "Not a directory (os error 20)"
  | .isDirectory => "Is a directory (os error 21)"
  | .nameTooLong => "File name too long (os error 36)"
  | .tooManyLinks => "Too many levels of symbolic links (os error 40)"
  | .nulByte => "file name contained an unexpected NUL byte"
  | .notText => "stream did not contain valid UTF-8"

inductive CompileFault where
  | unknownAction (name : String)
  | unknownDirective (name : String)
  | tooManyArguments (given : Nat) (signature : String)
  | missingInclude (path reason : String)
  | recursiveInclude (path : String)
  | malformed (reason : String)
  deriving DecidableEq, Repr

def CompileFault.message : CompileFault → String
  | .unknownAction name => s!"unknown action {Text.quoted name}"
  | .unknownDirective name => s!"unknown macro {Text.quoted name}"
  | .tooManyArguments given signature => s!"too many parameters ({given} given) for `{signature}`"
  | .missingInclude path reason => s!"cannot include {path}: {reason}"
  | .recursiveInclude path => s!"recursive include of {path}"
  | .malformed reason => reason

structure CompileError where
  source : String
  line : Nat
  fault : CompileFault
  deriving DecidableEq, Repr

def CompileError.message (e : CompileError) : String :=
  s!"{e.source}:{e.line}: {e.fault.message}"

/-- The wording of all errors of one compilation: their number, then one to a line. -/
def CompileError.summary (errors : List CompileError) : String :=
  let plural := if errors.length = 1 then "" else "s"
  errors.foldl (fun text e => text ++ "\n  " ++ e.message) s!"{errors.length} error{plural}"

inductive Expectation where
  | type (t : ValueType)
  | durationRange
  | locatorStrategy
  deriving DecidableEq, Repr

def Expectation.text : Expectation → String
  | .type t => t.name
  | .durationRange => "duration range (min-max)"
  | .locatorStrategy => "locator strategy (css, name, xpath, link, partial-link)"

inductive BindingFault where
  | missingArgument (name usage : String)
  | missingOption (name : String)
  | unexpectedArguments (arguments : List String) (usage : String)
  | unknownOption (name usage : String)
  | valueExpected (name : String) (type : ValueType)
  | conditionWithoutArgument (condition : String)
  | unknownCondition (condition : String)
  /-- A reason in the words of a caller. -/
  | other (reason : String)
  deriving DecidableEq, Repr

def BindingFault.message : BindingFault → String
  | .missingArgument name usage => s!"missing argument {Text.quoted name} (usage: {usage})"
  | .missingOption name => s!"missing option --{name}"
  | .unexpectedArguments arguments usage =>
    s!"unexpected argument(s) {Text.quotedList arguments} (usage: {usage})"
  | .unknownOption name usage => s!"unknown option --{name} (usage: {usage})"
  | .valueExpected name type => s!"option --{name} expects a {type.name} value"
  | .conditionWithoutArgument condition => s!"{condition} needs an argument"
  | .unknownCondition condition =>
    s!"unknown condition {Text.quoted condition} (present, absent, url-is, url-contains)"
  | .other reason => reason

/-- A broken promise between the registry and the handlers. -/
inductive InternalFault where
  | unregistered (action : String)
  | unbound (action parameter : String)
  | notKey (value : Value)
  /-- A reason in the words of a caller. -/
  | other (reason : String)
  deriving DecidableEq, Repr

def InternalFault.message : InternalFault → String
  | .unregistered action => s!"action {Text.quoted action} is not registered"
  | .unbound action parameter => s!"{action}: parameter {Text.quoted parameter} was not bound"
  | .notKey value => s!"{value.describe} is not a key"
  | .other reason => reason

inductive ScriptError where
  | compile (errors : List CompileError)
  | value (text : String) (expected : Expectation)
  | missingVariable (name : String)
  | unclosedBrace (text : String)
  | binding (action : String) (fault : BindingFault)
  | noSession
  | noElement
  | browser (error : BrowserError)
  | timeout (what : String) (after : Duration)
  | file (path : String) (fault : FileFault)
  | internal (fault : InternalFault)
  /-- The quiet end of a run whose cause has been reported already. -/
  | exit (status : Int)
  deriving DecidableEq, Repr

namespace ScriptError

def message : ScriptError → String
  | .compile errors => s!"script failed during compilation: {CompileError.summary errors}"
  | .value text expected => s!"can't parse {Text.quoted text} as {expected.text}"
  | .missingVariable name => s!"missing variable {Text.quoted name}"
  | .unclosedBrace text => s!"unclosed '$\x7b' in {Text.quoted text}"
  | .binding action fault => s!"bad parameters for {action}: {fault.message}"
  | .noSession => "no browser session (open one with BROWSER first)"
  | .noElement => "no active element (pick one with SELECT first)"
  | .browser error => error.message
  | .timeout what after => s!"timed out after {after.shown} waiting for {what}"
  | .file path fault => s!"cannot read {path}: {fault.message}"
  | .internal fault => s!"internal error: {fault.message}"
  | .exit status => s!"exit status {status}"

def kind : ScriptError → String
  | .compile _ => "CompileError"
  | .value .. => "ValueError"
  | .missingVariable _ => "MissingVariable"
  | .unclosedBrace _ => "SyntaxError"
  | .binding .. => "BindingError"
  | .noSession => "PreconditionError"
  | .noElement => "PreconditionError"
  | .browser _ => "BrowserError"
  | .timeout .. => "TimeoutError"
  | .file .. => "IoError"
  | .internal _ => "InternalError"
  | .exit _ => "Exit"

/-- Whether the error concerns the author of the script: all but internal faults and the quiet
end. -/
def isDomain : ScriptError → Bool
  | .internal _ => false
  | .exit _ => false
  | _ => true

def exitStatus : ScriptError → Int
  | .exit status => status
  | _ => 1

end ScriptError

end BrowserScript
