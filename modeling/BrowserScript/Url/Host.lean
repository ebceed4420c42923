import BrowserScript.Text.Quoted
import BrowserScript.Url.Domain
import BrowserScript.Url.Percent
import BrowserScript.Value.Reading

/-!
# Hosts

The host of an address is a name or a number.  A name whose last label is a number must be an IPv4
address, of one to four parts in any of three bases, where the last part fills the room that is
left.  An IPv6 address stands in brackets as eight pieces; two colons stand for pieces that are
zero.
-/

namespace BrowserScript

inductive Host where
  | named (name : String)
  | ipv4 (address : UInt32)
  | ipv6 (pieces : Vector UInt16 8)
  deriving DecidableEq

namespace Host

def octalNumber? (start : Nat) : List Char → Option Nat
  | [] => some start
  | c :: rest =>
    if '0' ≤ c ∧ c ≤ '7' then octalNumber? (8 * start + (c.toNat - '0'.toNat)) rest else none

/-- A part of an IPv4 address: hexadecimal after `0x`, octal after another zero, else decimal. -/
def ipv4Part? : List Char → Option Nat
  | '0' :: 'x' :: digits => Escape.hexNumber? 0 digits
  | '0' :: c :: digits => octalNumber? 0 (c :: digits)
  | cs => if Reading.isNumeral cs then some (Reading.numeral 0 cs) else none

def labels (name : List Char) : List (List Char) :=
  let all := Text.pieces (· == '.') name
  if all.getLast? = some [] then all.dropLast else all

def endsInNumber (name : List Char) : Bool :=
  match (labels name).getLast? with
  | none => false
  | some label => Reading.isNumeral label || (ipv4Part? label).isSome

/-- The IPv4 address with some parts: all but the last are bytes. -/
def ipv4OfParts? (parts : List Nat) : Option UInt32 :=
  let leading := parts.dropLast
  match parts.getLast? with
  | none => none
  | some last =>
    if 4 < parts.length ∨ leading.any (255 < ·) ∨ Nat.pow 256 (4 - leading.length) ≤ last then none
    else
      let high := leading.foldl (fun n part => 256 * n + part) 0
      some (high * Nat.pow 256 (4 - leading.length) + last).toUInt32

def ipv4? (name : List Char) : Option UInt32 := do
  ipv4OfParts? (← (labels name).mapM ipv4Part?)

/-- A piece of an IPv6 address: one to four hexadecimal digits. -/
def ipv6Piece? (cs : List Char) : Option Nat :=
  if cs.isEmpty ∨ 4 < cs.length then none else Escape.hexNumber? 0 cs

/-- A byte of an IPv4 address inside an IPv6 address: a decimal numeral without needless zeros. -/
def ipv4Byte? (cs : List Char) : Option Nat :=
  let n := Reading.numeral 0 cs
  if Reading.isNumeral cs ∧ n ≤ 255 ∧ (cs.head? ≠ some '0' ∨ cs.length = 1) then some n else none

def ipv6Tail? (cs : List Char) : Option (List Nat) := do
  match ← (Text.pieces (· == '.') cs).mapM ipv4Byte? with
  | [a, b, c, d] => some [256 * a + b, 256 * c + d]
  | _ => none

/-- The pieces of one side of an IPv6 address; the last may be an IPv4 address if `dotted`. -/
def ipv6Side? (dotted : Bool) (cs : List Char) : Option (List Nat) :=
  if cs.isEmpty then some []
  else
    let texts := Text.pieces (· == ':') cs
    match dotted, texts.getLast? with
    | true, some last =>
      if last.contains '.' then do
        return (← texts.dropLast.mapM ipv6Piece?) ++ (← ipv6Tail? last)
      else texts.mapM ipv6Piece?
    | _, _ => texts.mapM ipv6Piece?

/-- What stands before and after the first two colons in a row, the first part after `left`, held
backwards. -/
def cutGap (left : List Char) : List Char → List Char × Option (List Char)
  | ':' :: ':' :: rest => (left.reverse, some rest)
  | c :: rest => cutGap (c :: left) rest
  | [] => (left.reverse, none)

def ipv6OfPieces? (pieces : List Nat) : Option (Vector UInt16 8) :=
  if h : pieces.length = 8 then
    some ⟨(pieces.map Nat.toUInt16).toArray, by simp [h]⟩
  else none

/-- The IPv6 address that a text spells.  A gap stands for at least one piece. -/
def ipv6? (cs : List Char) : Option (Vector UInt16 8) :=
  match cutGap [] cs with
  | (all, none) => do ipv6OfPieces? (← ipv6Side? true all)
  | (left, some right) => do
    let before ← ipv6Side? false left
    let after ← ipv6Side? true right
    let count := before.length + after.length
    if 7 < count then none
    else ipv6OfPieces? (before ++ List.replicate (8 - count) 0 ++ after)

def bracketed? (cs : List Char) : Option Host :=
  if cs.getLast? = some ']' then (ipv6? cs.dropLast).map .ipv6 else none

def ofChars? : List Char → Option Host
  | '[' :: rest => bracketed? rest
  | cs => do
    let decoded ← Percent.decodeText? cs
    let name ← Domain.ofChars? decoded.toList
    if name.isEmpty then none
    else if endsInNumber name then (ipv4? name).map .ipv4
    else some (.named (String.ofList name))

def isForbidden (c : Char) : Bool :=
  c.toNat == 0 || "\t\n\r #/:<>?@[\\]^|".toList.contains c

def ofPlainChars? : List Char → Option Host
  | '[' :: rest => bracketed? rest
  | cs => if cs.any isForbidden then none else some (.named (Percent.encode Percent.controls cs))

def zeros (pieces : List Nat) : Nat := (pieces.takeWhile (· == 0)).length

/-- Where the first of the longest runs of zeros starts, and how long it is; `start` pieces stand
before the given ones. -/
def longestZeros (start : Nat) : List Nat → Nat × Nat
  | [] => (start, 0)
  | piece :: rest =>
    let here := (start, zeros (piece :: rest))
    let later := longestZeros (start + 1) rest
    if here.2 < later.2 then later else here

def piecesText (pieces : List Nat) : String :=
  ":".intercalate (pieces.map fun n => String.ofList (Text.hexDigits n))

def ipv6Text (address : Vector UInt16 8) : String :=
  let pieces := address.toList.map UInt16.toNat
  let (start, count) := longestZeros 0 pieces
  if count < 2 then piecesText pieces
  else piecesText (pieces.take start) ++ "::" ++ piecesText (pieces.drop (start + count))

def ipv4Text (address : UInt32) : String :=
  let n := address.toNat
  ".".intercalate ([16777216, 65536, 256, 1].map fun unit => toString (n / unit % 256))

def text : Host → String
  | .named name => name
  | .ipv4 address => ipv4Text address
  | .ipv6 pieces => "[" ++ ipv6Text pieces ++ "]"

end Host

end BrowserScript
