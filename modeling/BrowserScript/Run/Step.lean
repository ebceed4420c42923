import BrowserScript.Compile
import BrowserScript.Run.Polling
import BrowserScript.Template

/-!
# Steps

What the actions of a script do.  A step interpolates the words of an instruction, binds them to
the parameters of its action and runs the action's handler.
-/

namespace BrowserScript.Run

variable {β : Type}

def expandText (vars : Variables) (text : String) : Except ScriptError String :=
  match Template.expand vars text with
  | .ok s => .ok s
  | .error (.missing name) => .error (.missingVariable name)
  | .error .unclosed => .error (.unclosedBrace text)

def expandAll (vars : Variables) : List String → Except ScriptError (List String)
  | [] => .ok []
  | raw :: rest => do
    let s ← expandText vars raw
    let ss ← expandAll vars rest
    return s :: ss

def requireSession : Exec β Unit := do
  if !(← get).sessionOpen then fail .noSession

/-- The active element; the run stops if there is none. -/
def activeElement : Exec β ElementRef := do
  match (← get).active with
  | some e => pure e
  | none => fail .noElement

def activate (e : ElementRef) : Exec β Unit := modify fun m => { m with active := some e }

def deactivate : Exec β Unit := modify fun m => { m with active := none }

def assign (name text : String) : Exec β Unit :=
  modify fun m => { m with store := m.store.set name (.text text) }

/-- Writes a variable unless it is set, and says whether it was written. -/
def assignDefault (name text : String) : Exec β Bool :=
  modifyGet fun m =>
    (!m.store.contains name, { m with store := m.store.setDefault name (.text text) })

def adopt (policy : DelayPolicy) : Exec β Unit :=
  modify fun m => { m.note policy.changeNote with policy }

def pause (setup : Setup β) (d : Duration) : Exec β Unit := modify (pauseOn setup d)

def strategy (bound : Bound) : Except ScriptError Strategy :=
  match bound.text? "by" with
  | none => .ok .css
  | some raw =>
    match Strategy.ofText? raw with
    | some s => .ok s
    | none => .error (.value raw .locatorStrategy)

def locator (bound : Bound) : Except ScriptError Locator := do
  let query ← bound.text "query"
  let s ← strategy bound
  return ⟨s, query⟩

def keyText : List Value → Except ScriptError String
  | [] => .ok ""
  | v :: rest => do
    match v.key? with
    | some k => return k.text ++ (← keyText rest)
    | none => .error (.internal (.notKey v))

/-- The option of a browser that a named value stands for: true is the bare option, false none. -/
def optionText? (name : String) : Value → Option String
  | .boolean true => some s!"--{name}"
  | .boolean false => none
  | v => some s!"--{name}={v.toText}"

def browserOptions (extra : Dict Value) (headless : Bool) : List String :=
  let given := extra.filterMap fun e => optionText? e.1 e.2
  if headless && !Dict.contains "headless" extra then given ++ ["--headless"] else given

def resultText : Json → String
  | .null => ""
  | .string s => s
  | v => v.text

def condition (bound : Bound) : Except ScriptError Condition := do
  let given ← bound.text "condition"
  let name := Text.replaceChar '_' '-' (Text.lowerAscii given)
  let argument := bound.joinedRest
  if argument.isEmpty then .error (.binding "wait_till" (.conditionWithoutArgument name))
  else
    let s ← strategy bound
    if name = "present" then return .present ⟨s, argument⟩
    else if name = "absent" then return .absent ⟨s, argument⟩
    else if name = "url-is" then return .urlIs argument
    else if name = "url-contains" then return .urlContains argument
    else .error (.binding "wait_till" (.unknownCondition name))

def store (bound : Bound) (label text : String) : Exec β Unit :=
  match bound.text? "into" with
  | some name => do
    log .debug s!"{label}: {text}" [("var", .shown name)]
    assign name text
  | none => log .info s!"{label}: {text}" []

def startSession (setup : Setup β) (name : String) (options : List String) : Exec β Unit := do
  let _ : Unit ← demand setup (.openSession name options)
  modify fun m => { m with sessionOpen := true }

def endSession (setup : Setup β) : Exec β Unit := do
  modify fun m => { m with sessionOpen := false, active := none }
  let _ : Unit ← demand setup .closeSession

/-- Opens a session; an open one is closed first. -/
def openBrowser (setup : Setup β) (bound : Bound) : Exec β Unit := do
  let name ← require (bound.text "name")
  let options := browserOptions bound.extra setup.settings.headless
  if (← get).sessionOpen then
    log .debug "replacing open browser session" []
    endSession setup
  log .info "opening browser"
    [("browser", .shown name), ("options", .shown (Text.quotedList options))]
  startSession setup name options

def leavePage (setup : Setup β) (call : Call) : Exec β Unit := do
  let _ ← demand setup call
  deactivate

def seek (setup : Setup β) (l : Locator) (timeout : Duration) : Exec β Unit := do
  let e ← pollFind setup l timeout
  activate e

def handle (setup : Setup β) (bound : Bound) : Handler → Exec β Unit
  | .debug => log .debug bound.joinedRest []
  | .info => log .info bound.joinedRest []
  | .warning => log .warn bound.joinedRest []
  | .error => log .error bound.joinedRest []
  | .set => do
    let name ← require (bound.text "name")
    let value ← require (bound.text "value")
    log .debug "set" [("name", .shown name), ("value", .shown value)]
    assign name value
  | .default => do
    let name ← require (bound.text "name")
    let value ← require (bound.text "value")
    if ← assignDefault name value then log .debug "default applied" [("name", .shown name)]
  | .delay => do
    let text ← require (bound.text "policy")
    let policy ← require (DelayPolicy.ofText text)
    adopt policy
  | .sleep => do
    let text ← require (bound.text "duration")
    let (min, max) ← require (DelayPolicy.readRange text)
    let d ← modifyGet (sampleOn setup (DelayPolicy.between min max))
    log .debug "sleeping" [("d", .shown d.shown)]
    pause setup d
  | .browser => openBrowser setup bound
  | .close => do
    requireSession
    endSession setup
  | .visit => do
    requireSession
    let url ← require (bound.text "url")
    log .info "visit" [("url", .shown url)]
    leavePage setup (.navigate url)
  | .back => do
    requireSession
    leavePage setup .back
  | .forward => do
    requireSession
    leavePage setup .forward
  | .refresh => do
    requireSession
    leavePage setup .refresh
  | .select => do
    requireSession
    let l ← require (locator bound)
    seek setup l ((bound.duration? "timeout").getD setup.settings.elementTimeout)
    log .debug "selected" [("locator", .shown l.text)]
  | .focused => do
    requireSession
    let e : ElementRef ← demand setup .activeElement
    activate e
  | .click => do
    requireSession
    if (bound.get? "query").isSome then
      let l ← require (locator bound)
      seek setup l setup.settings.elementTimeout
    let e ← activeElement
    let _ : Unit ← demand setup (.click e)
  | .write => do
    requireSession
    let e ← activeElement
    let _ : Unit ← demand setup (.sendKeys e bound.joinedRest)
  | .press => do
    requireSession
    let e ← activeElement
    let text ← require (keyText bound.rest)
    let _ : Unit ← demand setup (.sendKeys e text)
  | .waitTill => do
    requireSession
    let c ← require (condition bound)
    waitFor setup c ((bound.duration? "timeout").getD setup.settings.elementTimeout)
    log .debug "condition met" [("condition", .shown c.text)]
  | .script => do
    requireSession
    let result : Json ← demand setup (.execute bound.joinedRest [])
    store bound "script returned" (resultText result)
  | .url => do
    requireSession
    let url : String ← demand setup .currentUrl
    store bound "current url" url
  | .windows => do
    requireSession
    let handles : List String ← demand setup .windowHandles
    let listed := ", ".intercalate handles
    log .info s!"{handles.length} window(s): {listed}" []
  | .timeouts => do
    requireSession
    let _ : Unit ← demand setup
      (.setTimeouts (bound.duration? "page_load") (bound.duration? "implicit"))

def step (setup : Setup β) (i : Instruction) : Exec β Unit := do
  match setup.registry.get? i.action with
  | none => fail (.internal (.unregistered i.action))
  | some action =>
    let vars := (← get).store
    let args ← require (expandAll vars i.args)
    let bound ← require (Binding.bind vars action args)
    log .trace "dispatch" [("action", .shown action.name), ("args", .shown (Text.quotedList args))]
    handle setup bound action.handler

end BrowserScript.Run
