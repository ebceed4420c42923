import BrowserScript.Escape

/-!
# Percent escapes

In an address a byte may be spelled as a percent sign and two hexadecimal digits.  Each part of an
address has a set of characters that must be spelled so, byte by byte of their UTF-8 form.
-/

namespace BrowserScript.Percent

def controls (c : Char) : Bool := c.toNat < 0x20 || 0x7e < c.toNat

def fragment (c : Char) : Bool := controls c || [' ', '"', '<', '>', '\x60'].contains c

def path (c : Char) : Bool := fragment c || ['#', '?', '\x7b', '\x7d'].contains c

def user (c : Char) : Bool :=
  path c || ['/', ':', ';', '=', '@', '[', '\\', ']', '^', '|'].contains c

def query (c : Char) : Bool := controls c || [' ', '"', '#', '<', '>'].contains c

def specialQuery (c : Char) : Bool := query c || c == '\''

def byte (b : UInt8) : List Char :=
  ['%', (Nat.digitChar (b.toNat / 16)).toUpper, (Nat.digitChar (b.toNat % 16)).toUpper]

def encodeChar (set : Char → Bool) (c : Char) : List Char :=
  if set c then (String.singleton c).toUTF8.toList.flatMap byte else [c]

def encode (set : Char → Bool) (cs : List Char) : String :=
  String.ofList (cs.flatMap (encodeChar set))

/-- The bytes that characters spell: a percent sign without two digits stands for itself. -/
def decode : List Char → List UInt8
  | '%' :: h :: l :: rest =>
    match Escape.hexNumber? 0 [h, l] with
    | some n => n.toUInt8 :: decode rest
    | none => 37 :: decode (h :: l :: rest)
  | c :: rest => (String.singleton c).toUTF8.toList ++ decode rest
  | [] => []

/-- The text that characters spell, if the bytes are the UTF-8 form of one. -/
def decodeText? (cs : List Char) : Option String :=
  String.fromUTF8? (ByteArray.mk (decode cs).toArray)

/-- Characters outside the set are kept. -/
theorem encodeChar_of_not {set : Char → Bool} {c : Char} (h : set c = false) :
    encodeChar set c = [c] := by
  simp [encodeChar, h]

@[simp]
theorem encode_nil (set : Char → Bool) : encode set [] = "" := rfl

end BrowserScript.Percent
