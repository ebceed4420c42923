import BrowserScript.Log
import BrowserScript.Text.Alphanumeric
import BrowserScript.Text.Blank
import BrowserScript.Text.Pattern
import BrowserScript.Text.Pieces
import BrowserScript.Value.Reading

/-!
# Log filters

Which entries and spans a log shows.  A filter is a list of rules with a limit each.  A plain rule
is for the origins whose names start in a given way; of those that fit, the one with the longest
beginning decides, among equals the last.  A rule that names a span or its fields lets through, up
to its limit, what happens inside such spans.
-/

namespace BrowserScript.Log

/-- How much a rule lets through: nothing, or everything down to a level. -/
inductive Limit where
  | off
  | upTo (level : Level)
  deriving DecidableEq, Repr

def Limit.rank : Limit → Nat
  | .off => 0
  | .upTo level => level.rank

def Limit.allows (limit : Limit) (level : Level) : Bool := level.rank ≤ limit.rank

inductive FieldTest where
  | number (n : Nat)
  | pattern (spelling : String) (p : Text.Pattern)
  /-- A truth value, a negative number or a fraction, which no field holds. -/
  | foreign (spelling : String)
  deriving DecidableEq, Repr

def FieldTest.passes : FieldTest → Datum → Bool
  | .number n, .number m => n == m
  | .pattern _ p, .text s => p.accepts s
  | _, _ => false

structure FieldRule where
  name : String
  test : Option FieldTest
  deriving DecidableEq, Repr

structure Rule where
  /-- How the names of the origins start that the rule is for; all origins if absent. -/
  target : Option String := none
  /-- The name of the spans that the rule is for; all spans if absent. -/
  span : Option String := none
  fields : List FieldRule := []
  limit : Limit := .upTo .trace
  deriving DecidableEq, Repr

namespace Rule

def fits (r : Rule) (origin : Origin) : Bool :=
  match r.target with
  | none => true
  | some t => t.toList.isPrefixOf origin.target.toList

def isDynamic (r : Rule) : Bool := r.span.isSome || !r.fields.isEmpty

/-- Whether a rule counts without any span. -/
def isStatic (r : Rule) : Bool := r.span.isNone && r.fields.all (·.test.isNone)

def hasFields (r : Rule) (e : Entry) : Bool :=
  r.fields.all fun f => f.name == "message" || e.fields.any (·.1 == f.name)

/-- Whether a rule is for spans like a given one, whatever its fields hold. -/
def concerns (r : Rule) (s : Span) : Bool :=
  r.fits s.origin && (r.span.isNone || r.span == some s.name) &&
    r.fields.all fun f => s.fields.any (·.1 == f.name)

def passes (r : Rule) (s : Span) : Bool :=
  r.fields.all fun f =>
    match f.test with
    | none => true
    | some test => s.fields.any fun field => field.1 == f.name && test.passes field.2

/-- How specific a rule is: the length of its beginning, none being least of all, and then the
number of its fields. -/
def weight (r : Rule) : Nat × Nat :=
  (match r.target with
    | none => 0
    | some t => t.utf8ByteSize + 1,
   r.fields.length)

def isLike (r s : Rule) : Bool :=
  r.target == s.target && r.span == s.span && r.fields == s.fields

/-- Whether a rule gives way to another one: the more specific one counts, among equals the one
whose field comes later by name, and then the second. -/
def yields (r s : Rule) : Bool :=
  let field (t : Rule) : String := (t.fields.head?.map FieldRule.name).getD ""
  r.weight.1 < s.weight.1 ||
    (r.weight.1 == s.weight.1 && (r.weight.2 < s.weight.2 ||
      (r.weight.2 == s.weight.2 && !decide (field s < field r))))

end Rule

structure Filter where
  rules : List Rule
  deriving DecidableEq, Repr

namespace Filter

def prefer (old : Option Rule) (new : Rule) : Option Rule :=
  match old with
  | none => some new
  | some r => if r.yields new then some new else some r

def limitOf (rules : List Rule) : Limit :=
  ((rules.foldl prefer none).map Rule.limit).getD .off

def statics (f : Filter) : List Rule := f.rules.filter Rule.isStatic

/-- The rules that look at spans; of like ones the last counts. -/
def dynamics (f : Filter) : List Rule :=
  (f.rules.filter Rule.isDynamic).foldl
    (fun kept r => kept.filter (fun s => !s.isLike r) ++ [r]) []

/-- The greatest limit of any rule; rules that ask what fields hold look at everything. -/
def greatest (f : Filter) : Nat :=
  if f.rules.any fun r => r.fields.any (·.test.isSome) then 5
  else (f.rules.map (·.limit.rank)).foldl max 0

/-- What is known of the open spans: the limits they set and those that are shown. -/
structure Scope where
  limits : List Limit := []
  shown : List Span := []

def Scope.allows (scope : Scope) (level : Level) : Bool := scope.limits.any (·.allows level)

/-- What is known after a further span is opened.  A span that a rule is for is shown and sets the
greatest limit of the rules whose fields it fills. -/
def enter (f : Filter) (scope : Scope) (s : Span) : Scope :=
  let concerned := f.dynamics.filter (·.concerns s)
  if f.greatest < s.level.rank then scope
  else if !concerned.isEmpty then
    let limits := (concerned.filter (·.passes s)).map Rule.limit
    let limit := limits.foldl (fun a b => if a.rank < b.rank then b else a) .off
    ⟨scope.limits ++ [limit], scope.shown ++ [s]⟩
  else if scope.allows s.level || (limitOf (f.statics.filter (·.fits s.origin))).allows s.level then
    { scope with shown := scope.shown ++ [s] }
  else scope

def allows (f : Filter) (scope : Scope) (e : Entry) : Bool :=
  scope.allows e.level ||
    (limitOf (f.statics.filter fun r => r.fits e.origin && r.hasFields e)).allows e.level

def ofLevel (level : Level) : Filter := ⟨[{ limit := .upTo level }]⟩

/-- The limit of a number: zero lets nothing through, five everything. -/
def limitOfNumber? : Nat → Option Limit
  | 0 => some .off
  | 1 => some (.upTo .error)
  | 2 => some (.upTo .warn)
  | 3 => some (.upTo .info)
  | 4 => some (.upTo .debug)
  | 5 => some (.upTo .trace)
  | _ => none

def limitOfWord? (word : String) : Option Limit :=
  match Text.lowerAscii word with
  | "off" => some .off
  | "error" => some (.upTo .error)
  | "warn" => some (.upTo .warn)
  | "info" => some (.upTo .info)
  | "debug" => some (.upTo .debug)
  | "trace" => some (.upTo .trace)
  | _ => none

def count? (s : String) : Option Nat :=
  let digits := match s.toList with
    | '+' :: rest => rest
    | cs => cs
  if Reading.isNumeral digits then some (Reading.numeral 0 digits) else none

def limit? (s : String) : Option Limit := ((count? s).bind limitOfNumber?).or (limitOfWord? s)

def startsRule (c : Char) : Bool := c == '-' || c == ':' || c == '_' || Text.isAlphanumeric c

/-- Whether a text is a decimal number with an optional exponent, or names no finite one. -/
def isDecimal (s : String) : Bool :=
  let body := (Reading.sign (Text.lowerAscii s).toList).2
  let lead := body.takeWhile (· != 'e')
  let power := (body.dropWhile (· != 'e')).drop 1
  let whole := lead.takeWhile Reading.isDigit
  let fraction := lead.dropWhile Reading.isDigit
  ["inf", "infinity", "nan"].contains (String.ofList body) ||
    (!(whole ++ fraction.drop 1).isEmpty && (fraction.take 1 == ['.'] || fraction.isEmpty) &&
      (fraction.drop 1).all Reading.isDigit &&
      (lead.length == body.length || Reading.isInteger power))

def FieldTest.ofText? (s : String) : Option FieldTest :=
  match count? s with
  | some n => if n < Nat.pow 2 64 then some (.number n) else some (.foreign s)
  | none =>
    if s = "true" ∨ s = "false" ∨ isDecimal s then some (.foreign s)
    -- A field is matched as a whole, so that both its edges are reached anyway.
    else (Text.Expression.ofText? s).map fun e => .pattern s e.pattern

/-- The field that a text asks for: a name, and perhaps an equals sign and a test. -/
def FieldRule.ofText? (s : String) : Option FieldRule :=
  match (Text.pieces (· == '=') s.toList).map String.ofList with
  | name :: test :: _ =>
    if s.isEmpty then none else (FieldTest.ofText? test).map fun t => ⟨name, some t⟩
  | _ => if s.isEmpty then none else some ⟨s, none⟩

/-- How far a rule has been read; a place is where the part starts that is being read. -/
inductive Stage where
  | start
  /-- In a limit or the beginning of names. -/
  | word (place : Nat)
  | span (place : Nat)
  | field (place : Nat)
  /-- After the fields. -/
  | filled
  /-- After the span. -/
  | closed
  | level (place : Nat)

/-- Reads the character `c` at a place; `text` is all of the rule. -/
def readChar (text : List Char) (r : Rule) (stage : Stage) (place : Nat) (c : Char) :
    Option (Rule × Stage) :=
  let since (start : Nat) : String := String.ofList ((text.drop start).take (place - start))
  match stage, c with
  | .start, '[' => some (r, .span (place + 1))
  | .start, c => if startsRule c then some (r, .word place) else none
  | .word start, '=' => some ({ r with target := some (since start) }, .level (place + 1))
  | .word start, '[' => some ({ r with target := some (since start) }, .span (place + 1))
  | .span start, ']' => some ({ r with span := some (since start) }, .closed)
  | .span start, '\x7b' =>
    let name := since start
    some ({ r with span := if name.isEmpty then none else some name }, .field (place + 1))
  | .field start, '\x7d' =>
    (FieldRule.ofText? (since start)).map fun f => ({ r with fields := r.fields ++ [f] }, .filled)
  | .filled, ']' => some (r, .closed)
  | .filled, _ => none
  | .closed, '=' => some (r, .level (place + 1))
  | .closed, _ => none
  | stage, _ => some (r, stage)

def readChars (text : List Char) (r : Rule) (stage : Stage) (place : Nat) :
    List Char → Option (Rule × Stage)
  | [] => some (r, stage)
  | c :: rest => do
    let (r, stage) ← readChar text r stage place c
    readChars text r stage (place + 1) rest

/-- The rule that a text spells: a limit, or a beginning of origin names, a span in brackets with
perhaps a field in braces, or both, with perhaps an equals sign and a limit behind.  Without a limit
everything is let through.  Blanks around the text are not read, but those before it shift the
places at which its parts are taken. -/
def rule? (s : String) : Option Rule := do
  let text := s.toList
  let (r, stage) ← readChars text {} .start 0 (Text.trimBlanks text)
  match stage with
  | .word start =>
    let word := String.ofList (text.drop start)
    match limit? word with
    | some limit => some { r with limit }
    | none => some { r with target := some word }
  | .level start =>
    let word := String.ofList (text.drop start)
    if word.isEmpty then some r else (limit? word).map fun limit => { r with limit }
  | .closed => some r
  | _ => none

/-- The filter that a text spells: rules with commas between them.  A text without rules lets
nothing through. -/
def ofText? (s : String) : Option Filter :=
  let parts := ((Text.pieces (· == ',') s.toList).map String.ofList).filter (· ≠ "")
  (parts.mapM rule?).map Filter.mk

def filterVariable : String := "RUST_LOG"

/-- The filter of a run: the one that the environment spells, or everything down to a level. -/
def forRun (environment : List (String × String)) (level : Level) : Filter :=
  ((environment.lookup filterVariable).bind ofText?).getD (ofLevel level)

/-- The line that shows an entry, if it is shown, with those of its spans that are. -/
def line? (f : Filter) (e : Entry) : Option String :=
  let scope := e.spans.foldl f.enter {}
  if f.allows scope e then some (e.line scope.shown) else none

end Filter

end BrowserScript.Log
