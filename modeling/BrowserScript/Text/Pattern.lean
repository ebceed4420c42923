/-!
# Patterns

Regular expressions over characters: how one is spelled, and which texts it matches.  A pattern
matches a text as a whole, one character after the other, each time by what it asks of the rest.  An
expression is a pattern with a mark at an edge, or at both, where a match has to reach the edge of
the text.
-/

namespace BrowserScript.Text

inductive Pattern where
  /-- Matches no text. -/
  | never
  /-- Matches the empty text. -/
  | nothing
  /-- Matches one character, in one of the ranges or, if `outside`, in none. -/
  | one (outside : Bool) (ranges : List (Nat × Nat))
  | both (first second : Pattern)
  | either (first second : Pattern)
  /-- Matches any number of texts in a row. -/
  | many (each : Pattern)
  deriving DecidableEq, Repr

namespace Pattern

def followedBy : Pattern → Pattern → Pattern
  | .never, _ => .never
  | _, .never => .never
  | .nothing, q => q
  | p, .nothing => p
  | p, q => .both p q

def orElse : Pattern → Pattern → Pattern
  | .never, q => q
  | p, .never => p
  | p, q => if p = q then p else .either p q

def acceptsEmpty : Pattern → Bool
  | .never => false
  | .nothing => true
  | .one .. => false
  | .both p q => p.acceptsEmpty && q.acceptsEmpty
  | .either p q => p.acceptsEmpty || q.acceptsEmpty
  | .many _ => true

/-- What a pattern asks of the rest of a text that starts with a character. -/
def after (c : Char) : Pattern → Pattern
  | .never => .never
  | .nothing => .never
  | .one outside ranges =>
    if ranges.any (fun r => r.1 ≤ c.toNat && c.toNat ≤ r.2) != outside then .nothing else .never
  | .both p q =>
    let first := (p.after c).followedBy q
    if p.acceptsEmpty then first.orElse (q.after c) else first
  | .either p q => (p.after c).orElse (q.after c)
  | .many p => (p.after c).followedBy (.many p)

def accepts (p : Pattern) (s : String) : Bool :=
  (s.toList.foldl (fun q c => q.after c) p).acceptsEmpty

def ofChar (c : Char) : Pattern := .one false [(c.toNat, c.toNat)]

def digits : List (Nat × Nat) := [(0x30, 0x39)]

def wordChars : List (Nat × Nat) := [(0x30, 0x39), (0x41, 0x5a), (0x5f, 0x5f), (0x61, 0x7a)]

def blanks : List (Nat × Nat) := [(9, 13), (0x20, 0x20)]

def escaped? (c : Char) : Option Pattern :=
  match c with
  | 'd' => some (.one false digits)
  | 'D' => some (.one true digits)
  | 'w' => some (.one false wordChars)
  | 'W' => some (.one true wordChars)
  | 's' => some (.one false blanks)
  | 'S' => some (.one true blanks)
  | 'n' => some (ofChar '\n')
  | 't' => some (ofChar '\t')
  | 'r' => some (ofChar '\r')
  | _ => if c.isAlphanum || 0x80 ≤ c.toNat then none else some (ofChar c)

/-- The ranges of a bracketed class up to its end, with what follows; `first` says that a closing
bracket counts as a character. -/
def ranges? (first : Bool) (ranges : List (Nat × Nat)) :
    List Char → Option (List (Nat × Nat) × List Char)
  | [] => none
  | ']' :: rest =>
    if first then ranges? false ((0x5d, 0x5d) :: ranges) rest else some (ranges, rest)
  | '\\' :: c :: rest =>
    match escaped? c with
    | some (.one false more) => ranges? false (more ++ ranges) rest
    | _ => none
  | c :: '-' :: ']' :: rest => some ((c.toNat, c.toNat) :: (0x2d, 0x2d) :: ranges, rest)
  | c :: '-' :: d :: rest =>
    if c ≤ d then ranges? false ((c.toNat, d.toNat) :: ranges) rest else none
  | c :: rest => ranges? false ((c.toNat, c.toNat) :: ranges) rest

/-- A pattern with the signs of repetition after it, and what follows them. -/
def repeated (p : Pattern) : List Char → Pattern × List Char
  | '*' :: rest => repeated (.many p) rest
  | '+' :: '?' :: rest => repeated (p.followedBy (.many p)) rest
  | '+' :: rest => repeated (p.followedBy (.many p)) rest
  | '?' :: rest => repeated (p.orElse .nothing) rest
  | cs => (p, cs)

/-- What has been read of a pattern: the choices before the last one, the last one, and what
follows. -/
structure Choices where
  earlier : Pattern
  last : Pattern
  rest : List Char

/-- Reads a pattern up to a closing parenthesis, a dollar sign or the end, in at most `fuel` steps;
`choices` is what it may be instead and `start` what stands before in this choice. -/
def readFrom? (fuel : Nat) (choices start : Pattern) (cs : List Char) : Option Choices :=
  match fuel with
  | 0 => none
  | fuel + 1 =>
    let goOn (p : Pattern) (rest : List Char) : Option Choices :=
      let (p, rest) := repeated p rest
      readFrom? fuel choices (start.followedBy p) rest
    let group (inner : List Char) : Option Choices := do
      match ← readFrom? fuel .never .nothing inner with
      | ⟨earlier, last, ')' :: rest⟩ => goOn (earlier.orElse last) rest
      | _ => none
    match cs with
    | [] | ')' :: _ | '$' :: _ => some ⟨choices, start, cs⟩
    | '|' :: rest => readFrom? fuel (choices.orElse start) .nothing rest
    | '(' :: '?' :: ':' :: rest => group rest
    | '(' :: '?' :: _ => none
    | '(' :: rest => group rest
    | '[' :: '^' :: rest => do
      let (ranges, rest) ← ranges? true [] rest
      goOn (.one true ranges) rest
    | '[' :: rest => do
      let (ranges, rest) ← ranges? true [] rest
      goOn (.one false ranges) rest
    | '\\' :: c :: rest => do goOn (← escaped? c) rest
    | '.' :: rest => goOn (.one true [(10, 10)]) rest
    | c :: rest =>
      if ['*', '+', '?', '\\', '\x7b', '^'].contains c then none else goOn (ofChar c) rest

end Pattern

/-- The edges of a text that a match has to reach. -/
structure Edges where
  start : Bool
  stop : Bool
  deriving DecidableEq, Repr

structure Expression where
  edges : Edges
  pattern : Pattern
  deriving DecidableEq, Repr

/-- The expression that a text spells.  A mark at an edge is for one choice only, so it is not read
where there are several. -/
def Expression.ofText? (s : String) : Option Expression := do
  let (start, body) := match s.toList with
    | '^' :: body => (true, body)
    | body => (false, body)
  let read ← Pattern.readFrom? (s.length + 1) .never .nothing body
  let edges : Edges := ⟨start, read.rest == ['$']⟩
  if !read.rest.isEmpty && !edges.stop then none
  else if read.earlier ≠ .never && (edges.start || edges.stop) then none
  else some ⟨edges, read.earlier.orElse read.last⟩

end BrowserScript.Text
