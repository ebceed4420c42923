import BrowserScript.Dict
import BrowserScript.Numeric.Shortest
import BrowserScript.Text.Quoted

/-!
# JSON values

Values of the JSON format and their compact text.  Members of an object stand in increasing order
of their names.  Integers of 64 bits are kept exact, every other number is a binary64 number.
-/

namespace BrowserScript

inductive Json where
  | null
  | bool (b : Bool)
  | integer (n : Int)
  | number (x : Binary64)
  | string (s : String)
  | array (items : List Json)
  | object (members : List (String × Json))

namespace Json

def get? (name : String) : Json → Option Json
  | .object members => Dict.get? name members
  | _ => none

def string? : Json → Option String
  | .string s => some s
  | _ => none

def array? : Json → Option (List Json)
  | .array items => some items
  | _ => none

def hex4 (n : Nat) : List Char :=
  let ds := Text.hexDigits n
  List.replicate (4 - ds.length) '0' ++ ds

def charText (c : Char) : List Char :=
  if c = '"' then ['\\', '"']
  else if c = '\\' then ['\\', '\\']
  else if c = '\n' then ['\\', 'n']
  else if c = '\r' then ['\\', 'r']
  else if c = '\t' then ['\\', 't']
  else if c.toNat = 8 then ['\\', 'b']
  else if c.toNat = 12 then ['\\', 'f']
  else if c.toNat < 0x20 then '\\' :: 'u' :: hex4 c.toNat
  else [c]

def stringText (s : String) : String :=
  String.ofList ('"' :: s.toList.flatMap charText ++ ['"'])

mutual

def text : Json → String
  | .null => "null"
  | .bool b => if b then "true" else "false"
  | .integer n => toString n
  | .number x => if x.isFinite then NumberStyle.json.text x else "null"
  | .string s => stringText s
  | .array items => "[" ++ itemsText items ++ "]"
  | .object members => "\x7b" ++ membersText members ++ "\x7d"

def itemsText : List Json → String
  | [] => ""
  | [item] => item.text
  | item :: rest => item.text ++ "," ++ itemsText rest

def membersText : List (String × Json) → String
  | [] => ""
  | [(name, value)] => stringText name ++ ":" ++ value.text
  | (name, value) :: rest => stringText name ++ ":" ++ value.text ++ "," ++ membersText rest

end

end Json

end BrowserScript
