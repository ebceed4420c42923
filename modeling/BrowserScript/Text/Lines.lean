/-!
# The lines of a text

A line ends at a line feed, together with one carriage return right before it; what stands after
the last line feed is a line of its own unless it is empty.
-/

namespace BrowserScript.Text

/-- A line that a line feed ends, from its characters held backwards: a carriage return right
before the line feed is part of the line's end. -/
def endedLine : List Char → List Char
  | '\r' :: line => line.reverse
  | line => line.reverse

/-- The lines of a text whose current line so far has the characters `line`, held backwards. -/
def linesFrom (line : List Char) : List Char → List (List Char)
  | [] => if line.isEmpty then [] else [line.reverse]
  | c :: rest =>
    if c = '\n' then endedLine line :: linesFrom [] rest else linesFrom (c :: line) rest

def linesOf (cs : List Char) : List (List Char) := linesFrom [] cs

def lines (s : String) : List String :=
  (linesOf s.toList).map String.ofList

@[simp]
theorem linesOf_nil : linesOf [] = [] := rfl

theorem linesFrom_newline (line rest : List Char) :
    linesFrom line ('\n' :: rest) = endedLine line :: linesFrom [] rest := by
  simp [linesFrom]

theorem linesFrom_of_ne {c : Char} (h : c ≠ '\n') (line rest : List Char) :
    linesFrom line (c :: rest) = linesFrom (c :: line) rest := by
  simp [linesFrom, h]

end BrowserScript.Text
