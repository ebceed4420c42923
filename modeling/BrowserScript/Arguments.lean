import BrowserScript.Dict

/-!
# Positional and named arguments

A word that starts with two dashes names an option.  It takes the next word as its value unless
that one names an option too; all other words are positional.  Of a repeated option the last
occurrence counts.
-/

namespace BrowserScript

inductive Named where
  | text (s : String)
  /-- An option without a value. -/
  | flag
  deriving DecidableEq, Repr

inductive Argument where
  | positional (s : String)
  | option (key : String) (value : Named)
  deriving DecidableEq, Repr

namespace Arguments

def optionKey? (word : String) : Option String :=
  match word.toList with
  | '-' :: '-' :: key => some (String.ofList key)
  | _ => none

def group : List String → List Argument
  | [] => []
  | [word] =>
    match optionKey? word with
    | none => [.positional word]
    | some key => [.option key .flag]
  | word :: next :: after =>
    match optionKey? word with
    | none => .positional word :: group (next :: after)
    | some key =>
      if (optionKey? next).isSome then .option key .flag :: group (next :: after)
      else .option key (.text next) :: group after

def positional (args : List Argument) : List String :=
  args.filterMap fun
    | .positional s => some s
    | .option .. => none

def options (args : List Argument) : List (String × Named) :=
  args.filterMap fun
    | .positional _ => none
    | .option key value => some (key, value)

def split (words : List String) : List String × Dict Named :=
  let args := group words
  (positional args, Dict.ofList (options args))

end Arguments

end BrowserScript
