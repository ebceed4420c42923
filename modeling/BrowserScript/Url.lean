import BrowserScript.Url.Host

/-!
# Addresses

An address on the web: a scheme, the host with a user and the number of a socket, a path, a query
and a fragment.  All parts are kept in the escaped form in which the address shows them.
-/

namespace BrowserScript

inductive Url.Path where
  /-- A text without inner structure. -/
  | plain (text : String)
  /-- Segments, each after a slash. -/
  | segments (names : List String)
  deriving DecidableEq

structure Url where
  scheme : String
  user : String := ""
  password : Option String := none
  /-- The host; there is none in an address without an authority. -/
  host : Option Host := none
  /-- The number of the socket, unless it is the usual one of the scheme. -/
  socket : Option Nat := none
  path : Url.Path := .segments []
  query : Option String := none
  fragment : Option String := none
  deriving DecidableEq

namespace Url

def specialSchemes : List (String × Option Nat) :=
  [("http", some 80), ("https", some 443), ("ws", some 80), ("wss", some 443), ("ftp", some 21),
   ("file", none)]

def isSpecial (scheme : String) : Bool := specialSchemes.any (·.1 == scheme)

def usualSocket? (scheme : String) : Option Nat := (specialSchemes.lookup scheme).bind id

def hasHost (url : Url) : Bool := url.host.isSome && url.host != some (.named "")

def credentialsText (user : String) (password : Option String) : String :=
  match password with
  | some p => s!"{user}:{p}@"
  | none => if user.isEmpty then "" else s!"{user}@"

def Path.text : Path → String
  | .plain text => text
  | .segments names => String.join (names.map ("/" ++ ·))

/-- The part of an address between the scheme and the path.  Without a host, a path that starts
with two slashes is kept apart from one by a point. -/
def authorityText (url : Url) : String :=
  match url.host with
  | some host =>
    let socket := match url.socket with
      | some n => s!":{n}"
      | none => ""
    "//" ++ credentialsText url.user url.password ++ host.text ++ socket
  | none =>
    match url.path with
    | .segments ("" :: _ :: _) => "/."
    | _ => ""

/-- What is asked for at the host: the path and the query. -/
def target (url : Url) : String :=
  url.path.text ++ (match url.query with
    | some q => "?" ++ q
    | none => "")

def text (url : Url) : String :=
  url.scheme ++ ":" ++ url.authorityText ++ url.target ++ (match url.fragment with
    | some f => "#" ++ f
    | none => "")

/-- An address without its user and password, if they can be taken out: the user must be UTF-8
text, and so must the password unless there is a user. -/
def withoutUser (url : Url) : Url :=
  let named := (Percent.decodeText? url.user.toList).map (!·.isEmpty)
  let guarded := (url.password.bind fun p => Percent.decodeText? p.toList).isSome
  if named = some true ∨ (named = some false ∧ guarded) then
    { url with user := "", password := none }
  else url

def forRequest (url : Url) : Url := if url.hasHost then url.withoutUser else url

end Url

end BrowserScript
