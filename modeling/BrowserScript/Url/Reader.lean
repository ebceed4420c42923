import BrowserScript.Url

/-!
# Reading addresses

How a text is read as an address.  Blanks and controls at the ends and line breaks and tabs
anywhere are skipped.  After a special scheme a backslash counts as a slash and any number of
slashes introduces the host.  Points as segments of a path are resolved.
-/

namespace BrowserScript.Url

def significant (cs : List Char) : List Char :=
  let isOuter (c : Char) : Bool := c.toNat ≤ 0x20
  let inner := ((cs.dropWhile isOuter).reverse.dropWhile isOuter).reverse
  inner.filter fun c => !(c == '\t' || c == '\n' || c == '\r')

/-- Whether a character may stand in a scheme after its first letter. -/
def isSchemeChar (c : Char) : Bool := c.isAlphanum || c == '+' || c == '-' || c == '.'

def scheme? (cs : List Char) : Option (String × List Char) :=
  match cs.takeWhile isSchemeChar, cs.dropWhile isSchemeChar with
  | c :: rest, ':' :: after =>
    if c.isAlpha then some (String.ofList ((c :: rest).map Char.toLower), after) else none
  | _, _ => none

def isSlash (special : Bool) (c : Char) : Bool := c == '/' || (special && c == '\\')

def endsPath (c : Char) : Bool := c == '?' || c == '#'

def endsAuthority (special : Bool) (c : Char) : Bool := isSlash special c || endsPath c

def isPoint (segment : String) : Bool := segment == "." || Text.lowerAscii segment == "%2e"

def isTwoPoints (segment : String) : Bool :=
  ["..", ".%2e", "%2e.", "%2e%2e"].contains (Text.lowerAscii segment)

/-- Whether characters name a drive: a letter and a colon or bar. -/
def isDrive : List Char → Bool
  | [c, d] => c.isAlpha && (d == ':' || d == '|')
  | _ => false

/-- Whether a segment is kept when the place above is asked for. -/
def isRoot (segment : String) : Bool :=
  match segment.toList with
  | c :: d :: '\\' :: _ => isDrive [c, d]
  | cs => isDrive cs

def above : List String → List String
  | [] => []
  | segment :: rest => if isRoot segment then segment :: rest else rest

/-- A segment as a file address keeps it: a drive at the start of the path has a colon. -/
def driveSegment (file : Bool) (before : List String) (segment : String) : String :=
  match segment.toList with
  | [c, d] =>
    if file && isDrive [c, d] && before.all String.isEmpty then String.ofList [c, ':'] else segment
  | _ => segment

/-- Resolves the points among segments after others, which are held backwards. -/
def resolve (file : Bool) (before : List String) : List String → List String
  | [] => before.reverse
  | segment :: rest =>
    let last := if rest.isEmpty then [""] else []
    if isTwoPoints segment then resolve file (last ++ above before) rest
    else if isPoint segment then resolve file (last ++ before) rest
    else resolve file (driveSegment file before segment :: before) rest

def segments (special file : Bool) (cs : List Char) : List String :=
  resolve file [] ((Text.pieces (isSlash special) cs).map (Percent.encode Percent.path))

def trimSegments (names : List String) : List String :=
  match names.dropWhile String.isEmpty with
  | [] => [""]
  | rest => rest

def withTail (url : Url) : List Char → Url
  | '#' :: rest => { url with fragment := some (Percent.encode Percent.fragment rest) }
  | '?' :: rest =>
    let set := if isSpecial url.scheme then Percent.specialQuery else Percent.query
    let query := some (Percent.encode set (rest.takeWhile (· != '#')))
    match rest.dropWhile (· != '#') with
    | _ :: after => { url with query, fragment := some (Percent.encode Percent.fragment after) }
    | [] => { url with query }
  | _ => url

def credentials (cs : List Char) : Option (List Char) × List Char :=
  if cs.contains '@' then
    let host := (cs.reverse.takeWhile (· != '@')).reverse
    (some (cs.take (cs.length - host.length - 1)), host)
  else (none, cs)

def userOf (cs : List Char) : String × Option String :=
  let user := Percent.encode Percent.user (cs.takeWhile (· != ':'))
  match cs.dropWhile (· != ':') with
  | [] | [_] => (user, none)
  | _ :: rest => (user, some (Percent.encode Percent.user rest))

/-- The characters of a host and those from the colon behind it on; a colon in brackets belongs to
the host. -/
def cutHost (bracketed : Bool) : List Char → List Char × List Char
  | [] => ([], [])
  | c :: rest =>
    if c == ':' && !bracketed then ([], c :: rest)
    else
      let (host, after) := cutHost (if c == '[' then true else bracketed && c != ']') rest
      (c :: host, after)

/-- The number of a socket, unless it is the usual one, and what follows it. -/
def socket? (scheme : String) : List Char → Option (Option Nat × List Char)
  | ':' :: rest =>
    let digits := rest.takeWhile Reading.isDigit
    let after := rest.dropWhile Reading.isDigit
    let n := Reading.numeral 0 digits
    if 65535 < n ∨ (after.head?.map (· == '\\')) = some false then none
    else if digits.isEmpty ∨ usualSocket? scheme = some n then some (none, after)
    else some (some n, after)
  | cs => some (none, cs)

def withPath (url : Url) (cs : List Char) : Url :=
  let special := isSpecial url.scheme
  let body := cs.takeWhile fun c => !endsPath c
  let path := match body with
    | [] => if special then [""] else []
    | c :: rest => segments special false (if isSlash special c then rest else body)
  withTail { url with path := .segments path } (cs.dropWhile fun c => !endsPath c)

def withAuthority? (scheme : String) (cs : List Char) : Option Url := do
  let special := isSpecial scheme
  let (login, place) := credentials (cs.takeWhile fun c => !endsAuthority special c)
  let rest := cs.dropWhile fun c => !endsAuthority special c
  let (user, password) := userOf (login.getD [])
  let (name, after) := cutHost false place
  let host ← if special then Host.ofChars? name else Host.ofPlainChars? name
  let (socket, unread) ← socket? scheme after
  let claimed := !user.isEmpty || password.isSome || (login == some [] && !rest.isEmpty) ||
    !after.isEmpty
  if host = .named "" ∧ claimed then none
  else some (withPath { scheme, user, password, host := some host, socket } (unread ++ rest))

def file? (cs : List Char) : Option Url := do
  let finish (host : Option Host) (body : List Char) : Url :=
    let names := segments true true (body.takeWhile fun c => !endsPath c)
    let path := trimSegments names
    let kept := match path.head?.map String.toList with
      | some first => if isDrive first then none else host
      | none => host
    withTail { scheme := "file", host := some (kept.getD (.named "")), path := .segments path }
      (body.dropWhile fun c => !endsPath c)
  match cs with
  | c :: d :: rest =>
    if isSlash true c && isSlash true d then
      let name := rest.takeWhile fun c => !endsAuthority true c
      let after := rest.dropWhile fun c => !endsAuthority true c
      if isDrive name then return finish none rest
      else if name.isEmpty then return finish none after
      else
        let host ← Host.ofChars? name
        if host = .named "localhost" then return finish none after
        else match after with
          | e :: body => return finish (some host) (if isSlash true e then body else after)
          | [] => return finish (some host) []
    else if isSlash true c then return finish none (d :: rest)
    else return finish none cs
  | [c] => return finish none (if isSlash true c then [] else cs)
  | [] => return finish none []

def plain? (scheme : String) : List Char → Option Url
  | '/' :: '/' :: rest => withAuthority? scheme rest
  | '/' :: rest =>
    let names := segments false false (rest.takeWhile fun c => !endsPath c)
    some (withTail { scheme, path := .segments names } (rest.dropWhile fun c => !endsPath c))
  | cs =>
    let body := cs.takeWhile fun c => !endsPath c
    some (withTail { scheme, path := .plain (Percent.encode Percent.controls body) }
      (cs.dropWhile fun c => !endsPath c))

def ofText? (text : String) : Option Url := do
  let (scheme, rest) ← scheme? (significant text.toList)
  if scheme = "file" then file? rest
  else if isSpecial scheme then withAuthority? scheme (rest.dropWhile (isSlash true))
  else plain? scheme rest

end BrowserScript.Url
