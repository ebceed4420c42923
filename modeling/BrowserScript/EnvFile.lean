import BrowserScript.Text.Alphanumeric
import BrowserScript.Text.Blank

/-!
# Environment files

A file of lines `NAME=VALUE` that adds to the environment; names that are set already keep their
values.  A value may be quoted, and a quoted part may go on over several lines.  References to
other variables are replaced, except in single quotes.  The first line that cannot be read ends the
reading, and the lines before it count.
-/

namespace BrowserScript

abbrev Environment := List (String × String)

namespace EnvFile

inductive QuoteState where
  | plain
  /-- After a backslash outside quotes. -/
  | escaped
  /-- After a blank outside quotes, where a comment may start. -/
  | blank
  | single
  | singleEscaped
  | double
  | doubleEscaped
  deriving DecidableEq, Repr

def QuoteState.enter (c : Char) : QuoteState :=
  if c = '\\' then .escaped
  else if c = '"' then .double
  else if c = '\'' then .single
  else .plain

def QuoteState.next (s : QuoteState) (c : Char) : QuoteState :=
  match s with
  | .plain =>
    if Text.isBlank c && c ≠ '\n' && c ≠ '\r' then .blank else .enter c
  | .blank => .enter c
  | .escaped => .plain
  | .single => if c = '\\' then .singleEscaped else if c = '\'' then .plain else .single
  | .singleEscaped => .single
  | .double => if c = '\\' then .doubleEscaped else if c = '"' then .plain else .double
  | .doubleEscaped => .double

/-- The state at the end of a line, or, if a comment starts in it, what stands before. -/
def scan (s : QuoteState) (before : List Char) : List Char → QuoteState ⊕ List Char
  | [] => .inl s
  | c :: rest =>
    if s = .blank ∧ c = '#' then .inr before.reverse else scan (s.next c) (c :: before) rest

/-- The lines of a text with their line feeds; `line` is held backwards. -/
def linesFrom (line : List Char) : List Char → List (List Char)
  | [] => if line.isEmpty then [] else [line.reverse]
  | c :: rest =>
    if c = '\n' then (c :: line).reverse :: linesFrom [] rest else linesFrom (c :: line) rest

def isComment (cs : List Char) : Bool := (cs.dropWhile Text.isBlank).head? == some '#'

/-- The entries of a file, each with all its lines; the last is absent if the file ends inside
it. -/
def entriesFrom (start : List Char) (s : QuoteState) : List (List Char) → List (Option (List Char))
  | [] => if s = .plain then [] else [none]
  | line :: rest =>
    if isComment (start ++ line) then some [] :: entriesFrom [] .plain rest
    else match scan s [] line with
      | .inr before => some (start ++ before) :: entriesFrom [] .plain rest
      | .inl .plain => some (start ++ line) :: entriesFrom [] .plain rest
      | .inl s => entriesFrom (start ++ line) s rest

/-- Where a value stands; `quoted` says whether it is inside double quotes. -/
inductive ValuePlace where
  | text (quoted : Bool)
  /-- After a backslash. -/
  | escaped (quoted : Bool)
  /-- Inside single quotes. -/
  | literal
  /-- Inside the name of a reference without braces. -/
  | bare (quoted : Bool) (name : String)
  /-- Inside the name of a reference with braces. -/
  | braced (quoted : Bool) (name : String)
  /-- After a blank outside quotes, where only a comment may follow. -/
  | over

def escape? (c : Char) : Option Char :=
  if c = 'n' then some '\n'
  else if ['\\', '\'', '"', '$', ' '].contains c then some c
  else none

/-- The place after a character of a text, and whether the character belongs to the value. -/
def textStep (quoted : Bool) (c : Char) : ValuePlace × Bool :=
  if c = '$' then (.bare quoted "", false)
  else if c = '\\' then (.escaped quoted, false)
  else if c = '"' then (.text (!quoted), false)
  else if quoted then (.text true, true)
  else if c = '\'' then (.literal, false)
  else if c = ' ' ∨ c = '\t' then (.over, false)
  else (.text false, true)

/-- The value that characters spell after `value`, with references replaced by what `look` says. -/
def valueFrom (look : String → String) (value : String) :
    ValuePlace → List Char → Option String
  | .text quoted, [] => if quoted then none else some value
  | .escaped quoted, [] => if quoted then none else some value
  | .literal, [] => none
  | .bare quoted name, [] => if quoted then none else some (value ++ look name)
  | .braced .., [] => none
  | .over, [] => some value
  | .text quoted, c :: rest =>
    let (place, kept) := textStep quoted c
    valueFrom look (if kept then value.push c else value) place rest
  | .escaped quoted, c :: rest =>
    match escape? c with
    | none => none
    | some d => valueFrom look (value.push d) (.text quoted) rest
  | .literal, c :: rest =>
    if c = '\'' then valueFrom look value (.text false) rest
    else valueFrom look (value.push c) .literal rest
  | .bare quoted name, c :: rest =>
    if Text.isAlphanumeric c then valueFrom look value (.bare quoted (name.push c)) rest
    else if c = '\x7b' ∧ name.isEmpty then valueFrom look value (.braced quoted "") rest
    else if c = '$' then valueFrom look (value ++ look name) (.bare quoted "") rest
    else valueFrom look ((value ++ look name).push c) (.text quoted) rest
  | .braced quoted name, c :: rest =>
    if c = '\x7d' then valueFrom look (value ++ look name) (.text quoted) rest
    else valueFrom look value (.braced quoted (name.push c)) rest
  | .over, c :: rest =>
    if c = ' ' ∨ c = '\t' then valueFrom look value .over rest
    else if c = '#' then some value
    else none

def startsName (c : Char) : Bool := c.isAlpha || c == '_'

def inName (c : Char) : Bool := startsName c || c.isDigit || c == '.'

def name? (cs : List Char) : Option (String × List Char) :=
  if (cs.head?.map startsName).getD false then
    some (String.ofList (cs.takeWhile inName), (cs.dropWhile inName).dropWhile Text.isBlank)
  else none

def afterEquals? : List Char → Option (List Char)
  | '=' :: rest => some (rest.dropWhile Text.isBlank)
  | _ => none

/-- The name of an entry and the text of its value; the word `export` may precede the name. -/
def sides? (cs : List Char) : Option (String × List Char) := do
  let (name, rest) ← name? cs
  match afterEquals? rest with
  | some value => some (name, value)
  | none =>
    if name = "export" then
      let (name, rest) ← name? rest
      return (name, ← afterEquals? rest)
    else none

/-- What an entry adds to the environment: nothing if it is blank.  An entry that cannot be read
is absent. -/
def read? (environment : Environment) (entry : List Char) : Option (Option (String × String)) :=
  let cs := Text.trimBlanks entry
  if cs.isEmpty || isComment cs then some none
  else do
    let (name, text) ← sides? cs
    if text.isEmpty || isComment text then return some (name, "")
    else
      let look (n : String) : String := (environment.lookup n).getD ""
      return some (name, ← valueFrom look "" (.text false) text)

def add (environment : Environment) (entry : String × String) : Environment :=
  if (environment.lookup entry.1).isSome then environment else environment ++ [entry]

def addAll (environment : Environment) : List (Option (List Char)) → Environment
  | [] => environment
  | none :: _ => environment
  | some entry :: rest =>
    match read? environment entry with
    | none => environment
    | some none => addAll environment rest
    | some (some pair) => addAll (add environment pair) rest

/-- The characters of a text without the mark of its encoding at the start. -/
def withoutMark : List Char → List Char
  | c :: rest => if c.toNat = 0xfeff then rest else c :: rest
  | [] => []

def load (environment : Environment) (text : String) : Environment :=
  addAll environment (entriesFrom [] .plain (linesFrom [] (withoutMark text.toList)))

end EnvFile

end BrowserScript
