import BrowserScript.Log
import BrowserScript.Value.Reading

/-!
# The command line

The arguments of the program are read from left to right.  A setting takes its value from the same
argument, after an equals sign, or from the next argument, which must not look like an option.  A
value is examined when the next option or script arrives, or at the end; an argument that nobody
knows stops the reading before that.
-/

namespace BrowserScript

structure Options where
  script : String
  /-- The level of the log, if one is named. -/
  logging : Option Log.Level
  debug : Bool
  /-- The address of the WebDriver server. -/
  webdriver : String
  /-- The variables to set, as written. -/
  assignments : List String
  check : Bool
  dryRun : Bool
  timeout : Duration
  pollInterval : Duration
  deriving DecidableEq, Repr

namespace CommandLine

inductive Flag where
  | debug
  | check
  | dryRun
  | version
  | help
  deriving DecidableEq, Repr

def Flag.name : Flag → String
  | .debug => "debug"
  | .check => "check"
  | .dryRun => "dry-run"
  | .version => "version"
  | .help => "help"

def Flag.ofName? (name : String) : Option Flag :=
  [Flag.debug, .check, .dryRun, .version, .help].find? (·.name == name)

def Flag.ofLetter? : Char → Option Flag
  | 'v' => some .version
  | 'V' => some .version
  | 'h' => some .help
  | _ => none

inductive Setting where
  | logging
  | webdriver
  | assignment
  | timeout
  | pollInterval
  deriving DecidableEq, Repr

def Setting.name : Setting → String
  | .logging => "logging"
  | .webdriver => "webdriver"
  | .assignment => "set"
  | .timeout => "timeout"
  | .pollInterval => "poll-interval"

def Setting.ofName? (name : String) : Option Setting :=
  [Setting.logging, .webdriver, .assignment, .timeout, .pollInterval].find? (·.name == name)

def Setting.placeholder : Setting → String
  | .logging => "<LOGGING>"
  | .webdriver => "<WEBDRIVER>"
  | .assignment => "<NAME=VALUE>"
  | .timeout => "<DURATION>"
  | .pollInterval => "<DURATION>"

def Flag.usage (f : Flag) : String := "--" ++ f.name

def Setting.usage (s : Setting) : String := "--" ++ s.name ++ " " ++ s.placeholder

def scriptUsage : String := "<SCRIPT>"

inductive Misuse where
  | unknownArgument (argument : String)
  /-- A flag is given a value. -/
  | surplusValue (option value : String)
  | missingValue (option : String)
  /-- A value that is not among the possible ones. -/
  | impossibleValue (option value : String)
  /-- A value that cannot be read, for a reason. -/
  | unreadableValue (option value reason : String)
  | repeated (option : String)
  | conflict (option other : String)
  | missingScript
  deriving DecidableEq, Repr

def Misuse.message : Misuse → String
  | .unknownArgument argument => s!"unexpected argument '{argument}' found"
  | .surplusValue option value =>
    s!"unexpected value '{value}' for '{option}' found; no more were expected"
  | .missingValue option => s!"a value is required for '{option}' but none was supplied"
  | .impossibleValue option value => s!"invalid value '{value}' for '{option}'"
  | .unreadableValue option value reason => s!"invalid value '{value}' for '{option}': {reason}"
  | .repeated option => s!"the argument '{option}' cannot be used multiple times"
  | .conflict option other => s!"the argument '{option}' cannot be used with '{other}'"
  | .missingScript => s!"the following required arguments were not provided: {scriptUsage}"

inductive Stop where
  | version
  | help
  | misuse (m : Misuse)
  deriving DecidableEq, Repr

def Stop.exitStatus : Stop → Int
  | .misuse _ => 2
  | _ => 0

/-- What has been read and examined. -/
structure Given where
  script : Option String := none
  logging : Option Log.Level := none
  webdriver : Option String := none
  assignments : List String := []
  timeout : Option Duration := none
  pollInterval : Option Duration := none
  debug : Bool := false
  check : Bool := false
  dryRun : Bool := false

/-- What has been read and waits to be examined. -/
inductive Pending where
  | nothing
  /-- A setting whose value may follow. -/
  | unfilled (s : Setting)
  | filled (s : Setting) (value : String)
  | script (path : String)

def level? : String → Option Log.Level
  | "error" => some .error
  | "warning" => some .warn
  | "info" => some .info
  | "debug" => some .debug
  | "trace" => some .trace
  | _ => none

def once {α : Type} (s : Setting) (old : Option α) (new : Except Misuse α) :
    Except Stop (Option α) :=
  match old, new with
  | some _, _ => .error (.misuse (.repeated s.usage))
  | none, .ok a => .ok (some a)
  | none, .error m => .error (.misuse m)

def durationFor (s : Setting) (value : String) : Except Misuse Duration :=
  match Reading.duration? value with
  | some d => .ok d
  | none =>
    let reason := s!"can't parse {Text.quoted value} as {ValueType.duration.name}"
    .error (.unreadableValue s.usage value reason)

def levelFor (value : String) : Except Misuse Log.Level :=
  match level? value with
  | some level => .ok level
  | none => .error (.impossibleValue Setting.logging.usage value)

def Given.fill (g : Given) (s : Setting) (value : String) : Except Stop Given :=
  match s with
  | .logging => (once s g.logging (levelFor value)).map fun logging => { g with logging }
  | .webdriver => (once s g.webdriver (.ok value)).map fun webdriver => { g with webdriver }
  | .assignment => .ok { g with assignments := g.assignments ++ [value] }
  | .timeout => (once s g.timeout (durationFor s value)).map fun timeout => { g with timeout }
  | .pollInterval =>
    (once s g.pollInterval (durationFor s value)).map fun pollInterval => { g with pollInterval }

def Given.settle (g : Given) : Pending → Except Stop Given
  | .nothing => .ok g
  | .unfilled s => .error (.misuse (.missingValue s.usage))
  | .filled s value => g.fill s value
  | .script path =>
    if path.isEmpty then .error (.misuse (.missingValue scriptUsage))
    else .ok { g with script := some path }

def Given.raise (g : Given) (f : Flag) : Except Stop Given :=
  let again : Except Stop Given := .error (.misuse (.repeated f.usage))
  match f with
  | .debug => if g.debug then again else .ok { g with debug := true }
  | .check => if g.check then again else .ok { g with check := true }
  | .dryRun => if g.dryRun then again else .ok { g with dryRun := true }
  | .version => .error .version
  | .help => .error .help

inductive Argument where
  /-- Two dashes alone. -/
  | divider
  /-- Two dashes, a name and perhaps an equals sign with a value. -/
  | named (name : String) (value : Option String)
  /-- One dash and letters, of which the first is shown. -/
  | lettered (first : Char)
  | plain

/-- The form of an argument; a dash alone is plain. -/
def Argument.ofText (text : String) : Argument :=
  match text.toList with
  | ['-', '-'] => .divider
  | '-' :: '-' :: body =>
    match Reading.cut? '=' (String.ofList body) with
    | some (name, value) => .named name (some value)
    | none => .named (String.ofList body) none
  | '-' :: c :: _ => .lettered c
  | _ => .plain

def takeScript (g : Given) (p : Pending) (seen : Bool) (text : String) :
    Except Stop (Given × Pending) :=
  if seen then .error (.misuse (.unknownArgument text))
  else (g.settle p).map fun g => (g, .script text)

def takeNamed (g : Given) (p : Pending) (text name : String) (value : Option String) :
    Except Stop (Given × Pending) :=
  match Flag.ofName? name, Setting.ofName? name, value with
  | some f, _, some v => .error (.misuse (.surplusValue f.usage v))
  | some f, _, none => do return (← (← g.settle p).raise f, .nothing)
  | none, some s, some v => do return (← (← g.settle p).fill s v, .nothing)
  | none, some s, none => do return (← g.settle p, .unfilled s)
  | none, none, _ => .error (.misuse (.unknownArgument text))

/-- Takes options that one dash precedes; each of them stops the reading. -/
def takeLettered (g : Given) (p : Pending) (text : String) (first : Char) :
    Except Stop (Given × Pending) :=
  match Flag.ofLetter? first with
  | some f => do return (← (← g.settle p).raise f, .nothing)
  | none => .error (.misuse (.unknownArgument text))

def readPlain (g : Given) (p : Pending) (seen : Bool) : List String → Except Stop Given
  | [] => g.settle p
  | text :: rest => do
    let (g, p) ← takeScript g p seen text
    readPlain g p true rest

/-- Reads arguments; `seen` says whether the script has been named. -/
def readFrom (g : Given) (p : Pending) (seen : Bool) : List String → Except Stop Given
  | [] => g.settle p
  | text :: rest =>
    match Argument.ofText text, p with
    | .divider, p => readPlain g p seen rest
    | .named name value, p => do
      let (g, p) ← takeNamed g p text name value
      readFrom g p seen rest
    | .lettered first, p => do
      let (g, p) ← takeLettered g p text first
      readFrom g p seen rest
    | .plain, .unfilled s => readFrom g (.filled s text) seen rest
    | .plain, p => do
      let (g, p) ← takeScript g p seen text
      readFrom g p true rest

def defaultServer : String := "http://localhost:4444"

def serverVariable : String := "WEBDRIVER_URL"

def Given.toOptions (g : Given) (environment : List (String × String)) : Except Stop Options :=
  if g.check && g.dryRun then .error (.misuse (.conflict Flag.check.usage Flag.dryRun.usage))
  else match g.script with
    | none => .error (.misuse .missingScript)
    | some script =>
      let server := (g.webdriver.or (environment.lookup serverVariable)).getD defaultServer
      .ok {
        script
        logging := g.logging
        debug := g.debug
        webdriver := server
        assignments := g.assignments
        check := g.check
        dryRun := g.dryRun
        timeout := g.timeout.getD (10 * Duration.second)
        pollInterval := g.pollInterval.getD (250 * Duration.millisecond) }

def read (environment : List (String × String)) (arguments : List String) :
    Except Stop Options := do
  (← readFrom {} .nothing false arguments).toOptions environment

def versionText : String := "selscript 0.1.0"

def usageText : String := "Usage: selscript [OPTIONS] <SCRIPT>"

def helpText (environment : List (String × String)) : String :=
  let server := (environment.lookup serverVariable).getD ""
  "\n".intercalate [
    "Run a browser automation script",
    "",
    usageText,
    "",
    "Arguments:",
    "  <SCRIPT>  Script file to run",
    "",
    "Options:",
    "  -v, --version                   Print version",
    "      --logging <LOGGING>         Log verbosity (overridden by `RUST_LOG`).  " ++
      "Defaults to `info`, or `debug` with `--debug` " ++
      "[possible values: error, warning, info, debug, trace]",
    "      --debug                     Show the browser window; also logs at debug level " ++
      "unless `--logging` is given",
    "      --webdriver <WEBDRIVER>     WebDriver server to connect to " ++
      s!"[env: {serverVariable}={server}] [default: {defaultServer}]",
    "      --set <NAME=VALUE>          Set a script variable before the run (repeatable)",
    "      --check                     Compile the script and report errors without running it",
    "      --dry-run                   Run against an in-memory browser that only logs " ++
      "what it is asked to do",
    "      --timeout <DURATION>        Default timeout for element lookups and waits " ++
      "[default: 10s]",
    "      --poll-interval <DURATION>  How often waits re-check the browser [default: 250ms]",
    "  -h, --help                      Print help"]

def Misuse.report (m : Misuse) : List String :=
  [s!"error: {m.message}", "", usageText, "", "For more information, try '--help'."]

end CommandLine

end BrowserScript
