import BrowserScript.Compile
import BrowserScript.Configuration
import BrowserScript.EnvFile
import BrowserScript.Log.Filter
import BrowserScript.Recorder
import BrowserScript.Remote
import BrowserScript.Run

/-!
# The program

What the program does with a command line: it completes the environment from a file, settles the
configuration, compiles the script and runs it.  Everything outside is a parameter, so that the
lines it writes and its exit status are a function of the world it is started in.
-/

namespace BrowserScript

structure World (σ : Type) where
  environment : Environment
  files : FileTree
  clock : Clock
  /-- The numbers drawn at random. -/
  draws : Nat → Nat
  /-- The times at which the user interrupts the program. -/
  interrupts : List Nat
  server : Server σ
  /-- Why no connection to the server can be prepared, if that is so. -/
  clientFault? : Option String := none

namespace Program

/-- How often a wait may look again at once: more often than any time limit has nanoseconds. -/
def idleRounds : Nat := Reading.maxNanoseconds + 2

structure Execution (σ : Type) where
  status : Int
  /-- What happened, in order. -/
  trace : List Run.Event
  /-- When it ended. -/
  time : Nat
  /-- The state of the server. -/
  server : σ

/-- A trace with the note of an interrupt at its time, before everything else of that time. -/
def withSignal (time : Nat) : List Run.Event → List Run.Event
  | [] => [.log time DelayPolicy.signalNote]
  | e :: rest =>
    if time ≤ e.time then .log time DelayPolicy.signalNote :: e :: rest
    else e :: withSignal time rest

def statusOf : Except Run.Halt Unit → Int
  | .ok () => 0
  | .error halt => halt.exitStatus

variable {σ : Type}

def runIn {β : Type} (world : World σ) (config : Configuration) (backend : Backend β) (browser : β)
    (instructions : List Instruction) : Except Run.Halt Unit × Run.Machine β :=
  let setup : Run.Setup β :=
    ⟨Registry.standard, config.settings, backend, world.clock, world.draws, idleRounds⟩
  let start := Run.Machine.start (Variables.forRun world.environment config.overrides) browser
  Run.run setup instructions { start with time := ⟨0, false, world.interrupts⟩ }

def traceOf {β : Type} (world : World σ) (m : Run.Machine β) : List Run.Event :=
  (world.interrupts.filter (· ≤ m.time.now)).foldr withSignal m.trace.toList

def rehearse (world : World σ) (config : Configuration) (instructions : List Instruction)
    (server : σ) : Execution σ :=
  let (outcome, m) := runIn world config Recorder.backend {} instructions
  let calls := m.browser.callsInOrder.map fun call =>
    Run.Event.log m.time.now ⟨.info, .rehearsal, [], call, []⟩
  ⟨statusOf outcome, traceOf world m ++ calls, m.time.now, server⟩

def clientNote (reason : String) : Log.Entry :=
  let cause := (BrowserError.transport reason).message
  ⟨.error, .program, [], s!"cannot create WebDriver client: {cause}", []⟩

def perform (world : World σ) (config : Configuration) (instructions : List Instruction)
    (server : σ) : Execution σ :=
  match world.clientFault? with
  | some reason => ⟨1, [.log 0 (clientNote reason)], 0, server⟩
  | none =>
    let (outcome, m) := runIn world config (Remote.backend world.server)
      (Remote.ofAddress config.server server) instructions
    ⟨statusOf outcome, traceOf world m, m.time.now, m.browser.server⟩

/-- What the log says of a script that cannot be read: the error and its own cause. -/
def unreadNote (e : ScriptError) : Log.Entry :=
  let cause := match e with
    | .file _ fault => s!": {fault.message}"
    | _ => ""
  ⟨.error, .program, [], s!"cannot load script: {e.message}{cause}", []⟩

def checkedNote (config : Configuration) (instructions : List Instruction) : Log.Entry :=
  ⟨.info, .program, [], s!"{config.script}: ok",
    [("tokens", .shown (toString instructions.length))]⟩

def afterCompile (world : World σ) (config : Configuration) (server : σ) :
    Except ScriptError (List Instruction) → Execution σ
  | .error (.compile errors) => ⟨(ScriptError.compile errors).exitStatus, [], 0, server⟩
  | .error e => ⟨1, [.log 0 (unreadNote e)], 0, server⟩
  | .ok instructions =>
    match config.mode with
    | .check => ⟨0, [.log 0 (checkedNote config instructions)], 0, server⟩
    | .rehearse => rehearse world config instructions server
    | .run => perform world config instructions server

/-- Compiles the configured script and, unless it is only checked, runs it. -/
def execute (world : World σ) (config : Configuration) (server : σ) : Execution σ :=
  let compiled := Compile.file Registry.standard world.files config.script
  let after := afterCompile world config server compiled.outcome
  { after with trace := compiled.log.map (.log 0) ++ after.trace }

/-- A line that the program writes beside its output. -/
structure Message where
  time : Nat
  /-- Whether the line belongs to the log, which shows the time of day before it. -/
  isLogged : Bool
  text : String
  deriving DecidableEq, Repr

def messagesOf (filter : Log.Filter) (trace : List Run.Event) : List Message :=
  trace.filterMap fun
    | .log time entry => (filter.line? entry).map fun line => ⟨time, true, line⟩
    | .call .. | .interrupt .. => none

structure Ending (σ : Type) extends Execution σ where
  /-- What it prints. -/
  output : List String
  messages : List Message

def unstarted (status : Int) (output messages : List String) (server : σ) : Ending σ :=
  { status, trace := [], time := 0, server, output, messages := messages.map (⟨0, false, ·⟩) }

def stopped (environment : Environment) (stop : CommandLine.Stop) (server : σ) : Ending σ :=
  match stop with
  | .version => unstarted stop.exitStatus [CommandLine.versionText] [] server
  | .help => unstarted stop.exitStatus [CommandLine.helpText environment] [] server
  | .misuse m => unstarted stop.exitStatus [] m.report server

def started (world : World σ) (config : Configuration) (server : σ) : Ending σ :=
  let done := execute world config server
  let filter := Log.Filter.forRun world.environment config.level
  { done with output := [], messages := messagesOf filter done.trace }

def envFileName : String := ".env"

def completed (world : World σ) : World σ :=
  match world.files.nearest? envFileName with
  | some text => { world with environment := EnvFile.load world.environment text }
  | none => world

def run (world : World σ) (arguments : List String) (server : σ) : Ending σ :=
  let world := completed world
  match CommandLine.read world.environment arguments with
  | .error stop => stopped world.environment stop server
  | .ok options =>
    match Configuration.ofOptions options with
    | .error e => unstarted 1 [] [s!"selscript: {e.message}"] server
    | .ok config => started world config server

def missingFiles (world : World σ) (arguments : List String) : List String :=
  match CommandLine.read (completed world).environment arguments with
  | .error _ => []
  | .ok options =>
    match (Compile.file Registry.standard world.files options.script).outcome with
    | .ok _ => []
    | .error (.compile errors) =>
      errors.filterMap fun e => match e.fault with
        | .missingInclude path _ => some path
        | _ => none
    | .error _ => [options.script]

end Program

end BrowserScript
