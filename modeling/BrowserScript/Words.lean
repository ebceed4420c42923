import BrowserScript.Text.Blank

/-!
# The words of a line

A line is split at blanks.  Single quotes take everything literally, double quotes all but a
backslash before a quote or another backslash, a backslash outside quotes takes the next character
as it is, and an unquoted `#` starts a comment.
-/

namespace BrowserScript

inductive WordsError where
  /-- A quote is never closed. -/
  | unclosedQuote
  /-- The line ends in a backslash that takes no character. -/
  | trailingEscape
  deriving DecidableEq, Repr

def WordsError.message : WordsError → String
  | .unclosedQuote => "no closing quotation"
  | .trailingEscape => "no escaped character"

inductive WordsPlace where
  /-- Before the first word or after a blank. -/
  | between
  /-- Inside a word, outside quotes. -/
  | plain (word : String)
  /-- After a backslash outside quotes. -/
  | escaped (word : String)
  /-- Inside single quotes. -/
  | single (word : String)
  /-- Inside double quotes. -/
  | double (word : String)
  /-- After a backslash inside double quotes. -/
  | doubleEscaped (word : String)
  deriving DecidableEq, Repr

namespace Words

/-- The place after a character that is neither blank nor `#`, outside quotes. -/
def enter (word : String) (c : Char) : WordsPlace :=
  if c = '\'' then .single word
  else if c = '"' then .double word
  else if c = '\\' then .escaped word
  else .plain (word.push c)

/-- What a backslash and the next character stand for inside double quotes. -/
def afterEscape (word : String) (c : Char) : String :=
  if c = '"' ∨ c = '\\' then word.push c else (word.push '\\').push c

def splitFrom : WordsPlace → List Char → Except WordsError (List String)
  | .between, [] => .ok []
  | .plain word, [] => .ok [word]
  | .escaped _, [] => .error .trailingEscape
  | .single _, [] => .error .unclosedQuote
  | .double _, [] => .error .unclosedQuote
  | .doubleEscaped _, [] => .error .unclosedQuote
  | .between, c :: rest =>
    if Text.isBlank c then splitFrom .between rest
    else if c = '#' then .ok []
    else splitFrom (enter "" c) rest
  | .plain word, c :: rest =>
    if Text.isBlank c then (splitFrom .between rest).map (word :: ·)
    else if c = '#' then .ok [word]
    else splitFrom (enter word c) rest
  | .escaped word, c :: rest => splitFrom (.plain (word.push c)) rest
  | .single word, c :: rest =>
    if c = '\'' then splitFrom (.plain word) rest else splitFrom (.single (word.push c)) rest
  | .double word, c :: rest =>
    if c = '"' then splitFrom (.plain word) rest
    else if c = '\\' then splitFrom (.doubleEscaped word) rest
    else splitFrom (.double (word.push c)) rest
  | .doubleEscaped word, c :: rest => splitFrom (.double (afterEscape word c)) rest

def split (line : String) : Except WordsError (List String) :=
  splitFrom .between line.toList

end Words

end BrowserScript
