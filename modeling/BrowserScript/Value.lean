import BrowserScript.Duration
import BrowserScript.Key
import BrowserScript.Text.Quoted

/-!
# Typed values

The types a parameter may ask for and the values that arguments are read as.
-/

namespace BrowserScript

inductive ValueType where
  /-- Whatever the text looks like: an integer, a number, a boolean, a duration, else a text. -/
  | auto
  | text
  | integer
  | number
  | boolean
  | duration
  | key
  deriving DecidableEq, Repr

def ValueType.name : ValueType → String
  | .auto => "any"
  | .text => "string"
  | .integer => "integer"
  | .number => "number"
  | .boolean => "boolean"
  | .duration => "duration"
  | .key => "key"

inductive Value where
  | text (s : String)
  | integer (n : Int)
  | number (x : Binary64)
  | boolean (b : Bool)
  | duration (d : Duration)
  | key (k : Key)
  deriving DecidableEq, Repr

namespace Value

def type : Value → ValueType
  | .text _ => .text
  | .integer _ => .integer
  | .number _ => .number
  | .boolean _ => .boolean
  | .duration _ => .duration
  | .key _ => .key

def booleanText (b : Bool) : String := if b then "true" else "false"

def toText : Value → String
  | .text s => s
  | .integer n => toString n
  | .number x => NumberStyle.plain.text x
  | .boolean b => booleanText b
  | .duration d => d.text
  | .key k => k.text

def describe : Value → String
  | .text s => s!"Str({Text.quoted s})"
  | .integer n => s!"Int({n})"
  | .number x => s!"Number({NumberStyle.detailed.text x})"
  | .boolean b => s!"Bool({booleanText b})"
  | .duration d => s!"Duration({d.shown})"
  | .key k => s!"Key({k.name})"

def duration? : Value → Option Duration
  | .duration d => some d
  | _ => none

def key? : Value → Option Key
  | .key k => some k
  | _ => none

end Value

end BrowserScript
