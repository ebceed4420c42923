import BrowserScript.CommandLine
import BrowserScript.Run.Machine

/-!
# Configurations

What a command line means for a run.  The variables to set are checked first, in order, and then
the address of the server.
-/

namespace BrowserScript

inductive Mode where
  /-- Compile it and run it in a browser. -/
  | run
  /-- Compile it only. -/
  | check
  /-- Compile it and run it in the recording browser. -/
  | rehearse
  deriving DecidableEq, Repr

/-- Everything that is settled before a script is read. -/
structure Configuration where
  script : String
  mode : Mode
  /-- The least important level that is logged. -/
  level : Log.Level
  /-- The address of the WebDriver server. -/
  server : String
  /-- Variables that win over the environment. -/
  overrides : List (String × String)
  settings : Run.Settings
  deriving DecidableEq, Repr

inductive ConfigurationError where
  /-- A variable to set without an equals sign. -/
  | notAssignment (text : String)
  | badName (name : String)
  | badAddress (address : String)
  deriving DecidableEq, Repr

def ConfigurationError.message : ConfigurationError → String
  | .notAssignment text => s!"--set expects NAME=VALUE, got {Text.quoted text}"
  | .badName name => s!"invalid variable name {Text.quoted name}"
  | .badAddress address =>
    s!"webdriver URL must start with http:// or https://, got {Text.quoted address}"

namespace Configuration

def startsName (c : Char) : Bool := c.isAlpha || c == '_'

/-- Whether a text is the name of a variable: letters, digits and underscores of the basic
alphabet, no digit first. -/
def isName : List Char → Bool
  | [] => false
  | c :: rest => startsName c && rest.all fun d => startsName d || d.isDigit

/-- The name and value of a variable to set: blanks around the name do not count, the value is
everything after the first equals sign. -/
def assignment (text : String) : Except ConfigurationError (String × String) :=
  match Reading.cut? '=' text with
  | none => .error (.notAssignment text)
  | some (left, value) =>
    let name := Text.trim left
    if isName name.toList then .ok (name, value) else .error (.badName name)

def assignments : List String → Except ConfigurationError (List (String × String))
  | [] => .ok []
  | text :: rest => do
    let first ← assignment text
    let others ← assignments rest
    return first :: others

def isAddress (text : String) : Bool :=
  "http://".toList.isPrefixOf text.toList || "https://".toList.isPrefixOf text.toList

def modeOf (options : Options) : Mode :=
  if options.check then .check else if options.dryRun then .rehearse else .run

def ofOptions (options : Options) : Except ConfigurationError Configuration := do
  let overrides ← assignments options.assignments
  let server := Text.trim options.webdriver
  if isAddress server then
    return {
      script := options.script
      mode := modeOf options
      level := options.logging.getD (if options.debug then .debug else .info)
      server
      overrides
      settings := {
        headless := !options.debug
        pollInterval := options.pollInterval
        elementTimeout := options.timeout } }
  else throw (.badAddress server)

end Configuration

end BrowserScript
