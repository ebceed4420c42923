import BrowserScript.Variables

/-!
# Templates

Texts with variable references.  A text is cut into pieces, left to right: `$name` and `$` with a
name in braces are references, `$$` is a dollar sign, any other `$` and every other character
stands for itself.  Expansion replaces each reference once by the variable's text.
-/

namespace BrowserScript

inductive Piece where
  /-- A character other than the dollar sign. -/
  | literal (c : Char)
  /-- A doubled dollar sign, which stands for one. -/
  | dollar
  /-- A reference whose name stands in braces. -/
  | braced (name : String)
  /-- A reference whose name follows the dollar sign. -/
  | bare (name : String)
  /-- A dollar sign that starts no reference. -/
  | lone
  deriving DecidableEq, Repr

/-- The pieces of a text up to a brace that is never closed, if there is one. -/
structure Template where
  pieces : List Piece
  closed : Bool
  deriving DecidableEq, Repr

inductive TemplateError where
  /-- A reference to a variable that is not set. -/
  | missing (name : String)
  /-- A brace that is never closed. -/
  | unclosed
  deriving DecidableEq, Repr

namespace Template

def isNameStart (c : Char) : Bool := c.isAlpha || c == '_' || c == '@'

def isNameChar (c : Char) : Bool := c.isAlphanum || c == '_'

def cons (p : Piece) (t : Template) : Template := ⟨p :: t.pieces, t.closed⟩

def ofChars (cs : List Char) : Template :=
  match cs with
  | [] => ⟨[], true⟩
  | c :: rest =>
    if c = '$' then
      match rest with
      | [] => cons .lone ⟨[], true⟩
      | '\x7b' :: body =>
        match h : body.dropWhile (· != '\x7d') with
        | [] => ⟨[], false⟩
        | _ :: after =>
          have : after.length + 1 ≤ body.length := by
            have := (List.dropWhile_suffix (l := body) (· != '\x7d')).length_le
            simpa [h] using this
          cons (.braced (String.ofList (body.takeWhile (· != '\x7d')))) (ofChars after)
      | '$' :: after => cons .dollar (ofChars after)
      | d :: after =>
        if isNameStart d then
          have : (after.dropWhile isNameChar).length ≤ after.length :=
            (List.dropWhile_suffix isNameChar).length_le
          cons (.bare (String.ofList (d :: after.takeWhile isNameChar)))
            (ofChars (after.dropWhile isNameChar))
        else cons .lone (ofChars (d :: after))
    else cons (.literal c) (ofChars rest)
termination_by cs.length
decreasing_by
  all_goals simp_all
  all_goals omega

theorem ofChars_of_ne {c : Char} (h : c ≠ '$') (rest : List Char) :
    ofChars (c :: rest) = cons (.literal c) (ofChars rest) := by
  rw [ofChars.eq_def]
  simp [h]

def value (vars : Variables) : Piece → Except TemplateError String
  | .literal c => .ok (String.ofList [c])
  | .dollar => .ok "$"
  | .lone => .ok "$"
  | .braced name => reference name
  | .bare name => reference name
where
  /-- The text of the variable that a reference names. -/
  reference (name : String) : Except TemplateError String :=
    match vars.get? name with
    | some v => .ok v.toText
    | none => .error (.missing name)

/-- The texts of the pieces put together; the leftmost missing variable is reported first, an
unclosed brace last. -/
def join (vars : Variables) : List Piece → Bool → Except TemplateError String
  | [], closed => if closed then .ok "" else .error .unclosed
  | p :: rest, closed =>
    match value vars p with
    | .ok s => (join vars rest closed).map (s ++ ·)
    | .error e => .error e

def expand (vars : Variables) (s : String) : Except TemplateError String :=
  let t := ofChars s.toList
  join vars t.pieces t.closed

end Template

end BrowserScript
