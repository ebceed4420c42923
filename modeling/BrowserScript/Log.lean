import BrowserScript.Text.Quoted

/-!
# Log entries

What a run reports: a message with fields, made by one part of the program while some spans were
open, and the line of text that shows it.
-/

namespace BrowserScript.Log

inductive Level where
  | trace
  | debug
  | info
  | warn
  | error
  deriving DecidableEq, Repr

def Level.rank : Level → Nat
  | .error => 1
  | .warn => 2
  | .info => 3
  | .debug => 4
  | .trace => 5

def Level.name : Level → String
  | .trace => "TRACE"
  | .debug => "DEBUG"
  | .info => "INFO"
  | .warn => "WARN"
  | .error => "ERROR"

inductive Origin where
  | program
  | compiler
  | executor
  | pacing
  | remote
  | rehearsal
  deriving DecidableEq, Repr

def Origin.target : Origin → String
  | .program => "selscript"
  | .compiler => "selscript::script::compile"
  | .executor => "selscript::script::exec"
  | .pacing => "selscript::pacing"
  | .remote => "selscript::webdriver"
  | .rehearsal => "selscript::dry_run"

inductive Content where
  /-- A text that is shown as it is. -/
  | shown (s : String)
  /-- A text that a log line shows in quotes. -/
  | literal (s : String)
  deriving DecidableEq, Repr

def Content.raw : Content → String
  | .shown s => s
  | .literal s => s

def Content.display : Content → String
  | .shown s => s
  | .literal s => Text.quoted s

inductive Datum where
  | number (n : Nat)
  | text (s : String)
  deriving DecidableEq, Repr

def Datum.display : Datum → String
  | .number n => toString n
  | .text s => s

structure Span where
  name : String
  level : Level
  origin : Origin
  fields : List (String × Datum)
  deriving DecidableEq, Repr

def Span.text (s : Span) : String :=
  s.name ++ "\x7b" ++ " ".intercalate (s.fields.map fun f => f.1 ++ "=" ++ f.2.display) ++ "\x7d"

def spansText (spans : List Span) : String := ":".intercalate (spans.map Span.text)

structure Entry where
  level : Level
  origin : Origin
  spans : List Span
  message : String
  fields : List (String × Content)
  deriving DecidableEq, Repr

/-- How a log line shows a character of a message: the controls that a terminal would obey are
spelled by number. -/
def messageChar (c : Char) : List Char :=
  let n := c.toNat
  if n = 0x1b then "\\x1b".toList
  else if n = 7 then "\\x07".toList
  else if n = 8 then "\\x08".toList
  else if n = 12 then "\\x0c".toList
  else if n = 0x7f then "\\x7f".toList
  else if 0x80 ≤ n ∧ n ≤ 0x9f then "\\u\x7b".toList ++ Text.hexDigits n ++ ['\x7d']
  else [c]

def Entry.line (e : Entry) (spans : List Span) : String :=
  let level := String.ofList (List.replicate (5 - e.level.name.length) ' ') ++ e.level.name
  let around := if spans.isEmpty then "" else spansText spans ++ ": "
  let message := String.ofList (e.message.toList.flatMap messageChar)
  let fields := e.fields.foldl (fun text f => text ++ " " ++ f.1 ++ "=" ++ f.2.display) ""
  level ++ " " ++ around ++ e.origin.target ++ ": " ++ message ++ fields

end BrowserScript.Log
