import BrowserScript.Text.Unprinted
import BrowserScript.Text.Lowercase

/-!
# Quoted texts

How a message shows a text: between double quotes, with the quote, the backslash and the common
controls escaped, and every character that has no picture of its own spelled by number.
-/

namespace BrowserScript.Text

def isPrinted (c : Char) : Bool :=
  if c.toNat < 0x7f then 0x20 ≤ c.toNat else !inRanges unprintedRanges c

def hexDigits (n : Nat) : List Char := Nat.toDigits 16 n

def quotedChar (c : Char) : List Char :=
  if c = '"' then ['\\', '"']
  else if c = '\\' then ['\\', '\\']
  else if c.toNat = 0 then ['\\', '0']
  else if c = '\t' then ['\\', 't']
  else if c = '\r' then ['\\', 'r']
  else if c = '\n' then ['\\', 'n']
  else if isPrinted c then [c]
  else "\\u\x7b".toList ++ hexDigits c.toNat ++ ['\x7d']

def quoted (s : String) : String :=
  String.ofList ('"' :: s.toList.flatMap quotedChar ++ ['"'])

def quotedList (xs : List String) : String :=
  "[" ++ ", ".intercalate (xs.map quoted) ++ "]"

end BrowserScript.Text
