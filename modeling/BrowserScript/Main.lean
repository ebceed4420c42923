import BrowserScript.Http
import BrowserScript.Replay
import Std.Async.DNS
import Std.Async.Signal
import Std.Async.TCP
import Std.Time

/-!
# The command

Brings the world to the program: files, environment, time, interrupts and the WebDriver server.
The program is replayed whenever a reply or an interrupt comes in, and what has become settled is
written out when its time has come.
-/

namespace BrowserScript.Main

open Std.Async

def namesOf (path : String) : List String := (Path.components path).filter (· ≠ "")

def realPath? (path : String) : IO (Option String) := do
  try
    return some (← IO.FS.realPath path).toString
  catch _ => return none

def nodeAt (path : String) : IO Node := do
  if ← (← IO.FS.realPath path).isDir then return .folder
  try
    return .ofBytes (← IO.FS.readBinFile path)
  catch _ => return .garbled ""

/-- The tree with everything that is met on the way from a folder along some names. -/
def explore (tree : FileTree) (folder : List String) : List String → IO FileTree
  | [] => return tree
  | name :: rest => do
    if name = "" ∨ name = "." then explore tree folder rest
    else if name = ".." then explore tree folder.dropLast rest
    else
      let path := "/" ++ "/".intercalate (folder ++ [name])
      match ← realPath? path with
      | none => return tree
      | some real =>
        let place := namesOf real
        let met := [(place, ← nodeAt real)]
        let linked := if place = folder ++ [name] then [] else [(folder ++ [name], Node.link real)]
        explore { tree with entries := tree.entries ++ met ++ linked } place rest

def explorePath (tree : FileTree) (path : String) : IO FileTree :=
  if path.toList.any (·.toNat == 0) then return tree
  else explore tree (if Path.isAbsolute path then [] else tree.here) (Path.components path)

/-- The world with the files that the program asks for, as far as they exist. -/
partial def gather (world : World Replay) (arguments tried : List String) :
    IO (World Replay) := do
  match (Program.missingFiles world arguments).find? (!tried.contains ·) with
  | none => return world
  | some path =>
    let files ← explorePath world.files path
    gather { world with files } arguments (path :: tried)

def environment : IO Environment := do
  let text := (String.fromUTF8? (← IO.FS.readBinFile "/proc/self/environ")).getD ""
  return (text.splitOn "\x00").filterMap (Reading.cut? '=')

def drawFrom (seed n : Nat) : Nat :=
  let (a, generator) := stdNext (mkStdGen (seed + n))
  a * 2147483648 + (stdNext generator).1

def worldNow : IO (World Replay) := do
  let here := namesOf (← IO.FS.realPath (← IO.currentDir)).toString
  let seed ← IO.rand 0 1000000000
  let start : FileTree := { base := "", entries := [(here, .folder)], here }
  let files ← start.foldersUp.foldlM
    (fun tree folder => explore tree folder [Program.envFileName]) start
  return {
    environment := ← environment
    files
    clock := .ticking
    draws := drawFrom seed
    interrupts := []
    server := Replay.server }

partial def receive (socket : TCP.Socket.Client) (bytes : ByteArray) : Async ServerReply := do
  match ← socket.recv? 65536 with
  | none => return (Http.reply? true bytes.toList).getD .nothing
  | some more =>
    let bytes := bytes ++ more
    match Http.reply? false bytes.toList with
    | some reply => return reply
    | none => receive socket bytes

def socketAddress (number : UInt16) : Std.Net.IPAddr → Std.Net.SocketAddress
  | .v4 a => .v4 ⟨a, number⟩
  | .v6 a => .v6 ⟨a, number⟩

def exchangeAt (address : Http.Address) (request : Request) (ip : Std.Net.IPAddr) :
    Async ServerReply := do
  let socket ← TCP.Socket.Client.mk
  socket.connect (socketAddress address.socket.toUInt16 ip)
  socket.send (Http.requestText address request).toUTF8
  receive socket ByteArray.empty

def exchangeAny (address : Http.Address) (request : Request) : List Std.Net.IPAddr → IO ServerReply
  | [] => return .nothing
  | ip :: rest => do
    try
      (exchangeAt address request ip).block
    catch _ => exchangeAny address request rest

def exchange (request : Request) : IO ServerReply := do
  match Http.Address.ofUrl? request.url with
  | none => return .nothing
  | some address =>
    try
      let ips ← (DNS.getAddrInfo address.host (toString address.socket)).block
      exchangeAny address request ips.toList
    catch _ => return .nothing

structure Listener where
  waiter : Signal.Waiter
  next : IO.Ref (AsyncTask Int)

def Listener.start : IO Listener := do
  let waiter ← Signal.Waiter.mk .sigint true
  return ⟨waiter, ← IO.mkRef (← waiter.wait)⟩

def Listener.heard (l : Listener) : IO Bool := do
  if ← IO.hasFinished (← l.next.get) then
    l.next.set (← l.waiter.wait)
    return true
  else return false

/-- What plays the program: when it started, and how it hears of interrupts. -/
structure Player where
  start : Nat
  listener : Listener

def Player.now (p : Player) : IO Nat := return (← IO.monoNanosNow) - p.start

partial def Player.waitUntil (p : Player) (time : Nat) : IO (Option Nat) := do
  let now ← p.now
  if ← p.listener.heard then return some now
  else if time ≤ now then return none
  else
    IO.sleep (min 20 (Duration.toMillis (time - now) + 1)).toUInt32
    p.waitUntil time

def timestamp : IO String := do
  let now ← Std.Time.Timestamp.now
  let shown := Std.Time.DateTime.ofTimestamp now Std.Time.TimeZone.ZoneRules.UTC
  return shown.format "uuuu-MM-dd'T'HH:mm:ss.SSSSSS'Z'"

def write (m : Program.Message) : IO Unit := do
  if m.isLogged then
    let time ← timestamp
    IO.eprintln s!"{time} {m.text}"
  else IO.eprintln m.text

/-- Writes messages in their time, up to an interrupt; how many were written comes first. -/
def writeAll (p : Player) (written : Nat) : List Program.Message → IO (Nat × Option Nat)
  | [] => return (written, none)
  | m :: rest => do
    match ← p.waitUntil m.time with
    | some time => return (written, some time)
    | none =>
      write m
      writeAll p (written + 1) rest

partial def play (p : Player) (world : World Replay) (arguments : List String)
    (known : List (ServerReply × Duration)) (written : Nat) : IO UInt32 := do
  let ending := Program.run world arguments { known }
  let again (time : Nat) (written : Nat) : IO UInt32 :=
    play p { world with interrupts := world.interrupts ++ [time] } arguments known written
  match ← writeAll p written ((Replay.settledMessages ending).drop written) with
  | (written, some time) => again time written
  | (written, none) =>
    match ending.server.asked with
    | none =>
      match ← p.waitUntil ending.time with
      | some time => again time written
      | none =>
        for line in ending.output do IO.println line
        return ending.status.toNat.toUInt32
    | some request =>
      match ← p.waitUntil (Replay.lastCallTime ending.trace) with
      | some time => again time written
      | none =>
        let before ← p.now
        let reply ← exchange request
        let latency := (← p.now) - before
        play p world arguments (known ++ [(reply, latency)]) written

end BrowserScript.Main

open BrowserScript BrowserScript.Main in
def main (arguments : List String) : IO UInt32 := do
  let world ← gather (← worldNow) arguments []
  let player : Player := ⟨← IO.monoNanosNow, ← Listener.start⟩
  play player world arguments [] 0
