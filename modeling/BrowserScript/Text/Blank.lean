/-!
# Blank characters

The characters that separate words and are trimmed from the ends of a text: the twenty-five code
points of the Unicode class `White_Space`.
-/

namespace BrowserScript.Text

def isBlank (c : Char) : Bool :=
  let n := c.toNat
  (9 ≤ n && n ≤ 13) || n == 0x20 || n == 0x85 || n == 0xa0 || n == 0x1680 ||
    (0x2000 ≤ n && n ≤ 0x200a) || n == 0x2028 || n == 0x2029 || n == 0x202f || n == 0x205f ||
    n == 0x3000

def trimBlanks (cs : List Char) : List Char :=
  ((cs.dropWhile isBlank).reverse.dropWhile isBlank).reverse

def trim (s : String) : String :=
  String.ofList (trimBlanks s.toList)

@[simp]
theorem trimBlanks_nil : trimBlanks [] = [] := rfl

@[simp]
theorem toList_trim (s : String) : (trim s).toList = trimBlanks s.toList := by
  simp [trim]

end BrowserScript.Text
