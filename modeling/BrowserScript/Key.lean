import BrowserScript.Text.Lowercase

/-!
# Keyboard keys

Named keys that print nothing.  Each has a private-use code point, so that it can be sent inside
an ordinary text.
-/

namespace BrowserScript

structure Key where
  name : String
  code : Char
  deriving DecidableEq, Repr

namespace Key

def firstNames : List String :=
  ["NULL", "CANCEL", "HELP", "BACKSPACE", "TAB", "CLEAR", "RETURN", "ENTER", "SHIFT", "CONTROL",
   "ALT", "PAUSE", "ESCAPE", "SPACE", "PAGE_UP", "PAGE_DOWN", "END", "HOME", "LEFT", "UP", "RIGHT",
   "DOWN", "INSERT", "DELETE", "SEMICOLON", "EQUALS", "NUMPAD0", "NUMPAD1", "NUMPAD2", "NUMPAD3",
   "NUMPAD4", "NUMPAD5", "NUMPAD6", "NUMPAD7", "NUMPAD8", "NUMPAD9", "MULTIPLY", "ADD",
   "SEPARATOR", "SUBTRACT", "DECIMAL", "DIVIDE"]

def secondNames : List String :=
  ["F1", "F2", "F3", "F4", "F5", "F6", "F7", "F8", "F9", "F10", "F11", "F12", "META"]

def numbered (start : Nat) (names : List String) : List Key :=
  names.zipIdx.map fun p => ⟨p.1, Char.ofNat (start + p.2)⟩

def all : List Key := numbered 0xe000 firstNames ++ numbered 0xe031 secondNames

def aliases : List (String × String) :=
  [("ESC", "ESCAPE"), ("CTRL", "CONTROL"), ("COMMAND", "META"), ("ARROW_LEFT", "LEFT"),
   ("ARROW_UP", "UP"), ("ARROW_RIGHT", "RIGHT"), ("ARROW_DOWN", "DOWN"),
   ("BACK_SPACE", "BACKSPACE"), ("DEL", "DELETE")]

def dropMark (s : String) : String :=
  match s.toList with
  | '@' :: rest => String.ofList rest
  | _ => s

/-- The spelling under which a name is looked up: no leading `@`, upper case, underscores for
dashes, and the canonical name for another spelling. -/
def canonicalName (name : String) : String :=
  let wanted := Text.replaceChar '-' '_' (Text.upperAscii (dropMark name))
  ((aliases.find? (·.1 == wanted)).map (·.2)).getD wanted

/-- The key of a given name, in any letter case and with or without a leading `@`. -/
def lookup (name : String) : Option Key :=
  all.find? (·.name == canonicalName name)

def ofCode? (c : Char) : Option Key :=
  all.find? (·.code == c)

def text (k : Key) : String := String.ofList [k.code]

def constantName (k : Key) : String := "@" ++ k.name

/-- The key that a text names: a single character as a code point, anything as a name. -/
def read? (s : String) : Option Key :=
  match s.toList with
  | [c] => (ofCode? c).or (lookup s)
  | _ => lookup s

end Key

end BrowserScript
