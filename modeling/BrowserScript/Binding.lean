import BrowserScript.Registry
import BrowserScript.Value.Reading
import BrowserScript.Variables

/-!
# Binding arguments to parameters

The parameters of an action take the arguments in order: fixed ones a positional text each, a
variadic one the rest of them, options their named values, and a variadic option whatever is left.
Every text is read as the type that its parameter asks for; anything that no parameter takes is an
error.
-/

namespace BrowserScript

structure Bound where
  action : String
  values : Dict Value
  rest : List Value
  extra : Dict Value
  deriving DecidableEq, Repr

namespace Bound

def get? (b : Bound) (name : String) : Option Value := Dict.get? name b.values

def text? (b : Bound) (name : String) : Option String := (b.get? name).map Value.toText

def text (b : Bound) (name : String) : Except ScriptError String :=
  match b.text? name with
  | some s => .ok s
  | none => .error (.internal (.unbound b.action name))

def duration? (b : Bound) (name : String) : Option Duration :=
  (b.get? name).bind Value.duration?

def joinedRest (b : Bound) : String := " ".intercalate (b.rest.map Value.toText)

end Bound

namespace Binding

/-- A text read as a value of a given type.  A key is first looked up among the variables. -/
def convert (vars : Variables) (type : ValueType) (raw : String) : Except ScriptError Value :=
  let constant := if type = .key then vars.getKey? raw else none
  match constant with
  | some k => .ok (.key k)
  | none =>
    match Reading.value? raw type with
    | some v => .ok v
    | none => .error (.value raw (.type type))

/-- The value of an option.  One without a value is true where that makes sense. -/
def convertNamed (vars : Variables) (action : Action) (key : String) (type : ValueType) :
    Named → Except ScriptError Value
  | .text raw => convert vars type raw
  | .flag =>
    if type = .auto ∨ type = .boolean then .ok (.boolean true)
    else .error (.binding action.name (.valueExpected key type))

def convertAll (vars : Variables) (type : ValueType) : List String → Except ScriptError (List Value)
  | [] => .ok []
  | raw :: rest => do
    let v ← convert vars type raw
    let vs ← convertAll vars type rest
    return v :: vs

def convertOptions (vars : Variables) (action : Action) (type : ValueType) :
    Dict Named → Except ScriptError (Dict Value)
  | [] => .ok []
  | (key, value) :: rest => do
    let v ← convertNamed vars action key type value
    let vs ← convertOptions vars action type rest
    return (key, v) :: vs

/-- The arguments that no parameter has taken yet, and what is bound so far. -/
structure Progress where
  positional : List String
  named : Dict Named
  bound : Bound

/-- The option of a keyword parameter: its own name, else the name with dashes. -/
def takeOption (name : String) (named : Dict Named) : Option Named × Dict Named :=
  let dashed := Text.replaceChar '_' '-' name
  match Dict.get? name named with
  | some v => (some v, Dict.erase name named)
  | none => (Dict.get? dashed named, Dict.erase dashed named)

def bindParam (vars : Variables) (action : Action) (p : Param) (s : Progress) :
    Except ScriptError Progress :=
  match p.kind with
  | .fixed =>
    match s.positional with
    | raw :: rest => do
      let v ← convert vars p.type raw
      return { s with
        positional := rest
        bound := { s.bound with values := Dict.insert p.name v s.bound.values } }
    | [] =>
      if p.hasDefault then .ok s
      else .error (.binding action.name (.missingArgument p.name action.signature))
  | .variadic => do
    let vs ← convertAll vars p.type s.positional
    return { s with positional := [], bound := { s.bound with rest := s.bound.rest ++ vs } }
  | .keyword =>
    match takeOption p.name s.named with
    | (some value, named) => do
      let v ← convertNamed vars action p.name p.type value
      return { s with
        named
        bound := { s.bound with values := Dict.insert p.name v s.bound.values } }
    | (none, _) =>
      if p.hasDefault then .ok s
      else .error (.binding action.name (.missingOption (Text.replaceChar '_' '-' p.name)))
  | .variadicKeyword => do
    let vs ← convertOptions vars action p.type s.named
    return { s with
      named := []
      bound := { s.bound with extra := Dict.insertAll vs s.bound.extra } }

def bindParams (vars : Variables) (action : Action) :
    List Param → Progress → Except ScriptError Progress
  | [], s => .ok s
  | p :: rest, s => do
    let s ← bindParam vars action p s
    bindParams vars action rest s

def finish (action : Action) (s : Progress) : Except ScriptError Bound :=
  match s.positional, s.named with
  | [], [] => .ok s.bound
  | [], (key, _) :: _ => .error (.binding action.name (.unknownOption key action.signature))
  | leftover, _ => .error (.binding action.name (.unexpectedArguments leftover action.signature))

def bind (vars : Variables) (action : Action) (words : List String) : Except ScriptError Bound := do
  let (positional, named) := Arguments.split words
  let s ← bindParams vars action action.params ⟨positional, named, ⟨action.name, [], [], []⟩⟩
  finish action s

end Binding

end BrowserScript
