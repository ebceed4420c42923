import BrowserScript.Remote
import BrowserScript.Text.Lines

/-!
# Requests and replies on the wire

The bytes that carry a request to a server and bring its reply back.  A reply ends where its head
says, by a length or by chunks, or else where the connection ends.
-/

namespace BrowserScript.Http

/-- Where a request goes: a host, the number of its socket and what is asked for there. -/
structure Address where
  host : String
  socket : Nat
  target : String
  deriving DecidableEq, Repr

def Address.ofUrl? (url : Url) : Option Address :=
  match url.scheme, url.host with
  | "http", some host =>
    let name := match host with
      | .ipv6 pieces => Host.ipv6Text pieces
      | _ => host.text
    some ⟨name, url.socket.getD 80, url.target⟩
  | _, _ => none

def requestText (address : Address) (request : Request) : String :=
  let body := match request.body with
    | none => "\r\n"
    | some json =>
      let text := json.text
      s!"Content-Type: application/json\r\nContent-Length: {text.utf8ByteSize}\r\n\r\n{text}"
  s!"{request.method} {address.target} HTTP/1.1\r\nHost: {address.host}:{address.socket}\r\n" ++
    "Accept: */*\r\nConnection: close\r\n" ++ body

structure Head where
  status : Nat
  /-- Names in lower case, with values. -/
  fields : List (String × String)

def cutHead? (before : List UInt8) : List UInt8 → Option (List UInt8 × List UInt8)
  | 13 :: 10 :: 13 :: 10 :: rest => some (before.reverse, rest)
  | b :: rest => cutHead? (b :: before) rest
  | [] => none

/-- Bytes as characters of the same numbers. -/
def asText (bytes : List UInt8) : String :=
  String.ofList (bytes.map fun b => Char.ofNat b.toNat)

def field? (line : String) : Option (String × String) :=
  (Reading.cut? ':' line).map fun (name, value) =>
    (Text.lowerAscii (Text.trim name), Text.trim value)

def Head.ofLines? : List String → Option Head
  | [] => none
  | first :: rest =>
    let status := (first.toList.dropWhile (· != ' ')).drop 1 |>.takeWhile Reading.isDigit
    if status.length = 3 then some ⟨Reading.numeral 0 status, rest.filterMap field?⟩ else none

def hexDigit? (b : UInt8) : Option Nat :=
  let n := b.toNat
  if 48 ≤ n ∧ n ≤ 57 then some (n - 48)
  else if 97 ≤ n ∧ n ≤ 102 then some (n - 87)
  else if 65 ≤ n ∧ n ≤ 70 then some (n - 55)
  else none

def chunkSize (size : Nat) : List UInt8 → Option (Nat × List UInt8)
  | [] => none
  | 10 :: rest => some (size, rest)
  | b :: rest =>
    match hexDigit? b with
    | some d => chunkSize (16 * size + d) rest
    | none => chunkSize size rest

/-- The bytes of a body in chunks, if all of it is there; at most `fuel` chunks are read. -/
def chunks? : Nat → List UInt8 → Option (List UInt8)
  | 0, _ => none
  | fuel + 1, bytes => do
    let (size, rest) ← chunkSize 0 bytes
    if size = 0 then return []
    else if rest.length < size then none
    else return rest.take size ++ (← chunks? fuel ((rest.drop size).drop 2))

def body? (head : Head) (closed : Bool) (bytes : List UInt8) : Option (List UInt8) :=
  if (head.fields.lookup "transfer-encoding").map Text.lowerAscii = some "chunked" then
    chunks? (bytes.length + 1) bytes
  else match (head.fields.lookup "content-length").map String.toList with
    | some digits =>
      let size := Reading.numeral 0 digits
      if bytes.length < size then none else some (bytes.take size)
    | none => if closed then some bytes else none

/-- The reply that bytes bring, if all of it is there; `closed` says that no more will come. -/
def reply? (closed : Bool) (bytes : List UInt8) : Option ServerReply := do
  let (head, rest) ← cutHead? [] bytes
  let head ← Head.ofLines? (Text.lines (asText head))
  let body ← body? head closed rest
  return .response head.status ((String.fromUTF8? (ByteArray.mk body.toArray)).getD "")

end BrowserScript.Http
