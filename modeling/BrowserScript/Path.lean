/-!
# Paths

Paths as texts: how a relative one is joined to a directory and which directory holds a file.
Neither looks at any file.
-/

namespace BrowserScript.Path

def isAbsolute (path : String) : Bool := path.toList.head? == some '/'

def join (base target : String) : String :=
  if isAbsolute target || base.isEmpty then target
  else if base.toList.getLast? == some '/' then base ++ target
  else base ++ "/" ++ target

def dropTail : List Char → List Char
  | '/' :: [] => ['/']
  | '/' :: rest => dropTail rest
  | '.' :: '/' :: rest => dropTail ('/' :: rest)
  | path => path

def parent? (path : String) : Option String :=
  let whole := dropTail path.toList.reverse
  if whole.isEmpty || whole == ['/'] then none
  else some (String.ofList (dropTail (whole.dropWhile (· != '/'))).reverse)

/-- The components of the characters of a path, empty ones included, after the component `part`,
held backwards. -/
def componentsFrom (part : List Char) : List Char → List String
  | [] => [String.ofList part.reverse]
  | c :: rest =>
    if c = '/' then String.ofList part.reverse :: componentsFrom [] rest
    else componentsFrom (c :: part) rest

def components (path : String) : List String := componentsFrom [] path.toList

end BrowserScript.Path
