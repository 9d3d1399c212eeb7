import MeshRoom.Url.Label
import MeshRoom.Url.Percent

/-!
# Hosts

A host is a domain name, an address of four or of sixteen bytes, or, outside the special schemes,
any text. Names are compared without regard to case, so they are kept in lower case; a name whose
last label is a number is an address of four bytes or nothing.
-/

namespace MeshRoom

/-- A host of an address. -/
inductive Host where
  | domain (name : String)
  | ipv4 (address : Nat)
  | ipv6 (pieces : List Nat)
  | verbatim (text : String)
deriving DecidableEq, Repr

namespace Host

open Url (cut)

/-! ### Addresses of four bytes -/

/-- A number in a base, if every character is a digit of it. -/
def number? (base : Nat) (digits : List Char) : Option Nat :=
  digits.foldlM (fun n c => do
    let d ← Text.hexValue? c
    if d < base then some (base * n + d) else none) 0

/-- A part of an address: hexadecimal after `0x`, octal after `0`, decimal otherwise. -/
def ipv4Part? : List Char → Option Nat
  | [] => none
  | '0' :: 'x' :: digits => number? 16 digits
  | '0' :: 'X' :: digits => number? 16 digits
  | '0' :: d :: digits => number? 8 (d :: digits)
  | digits => number? 10 digits

/-- The parts between dots, without an empty last one. -/
def dottedParts (name : List Char) : List (List Char) :=
  let parts := cut '.' name
  if 1 < parts.length ∧ parts.getLast? = some [] then parts.dropLast else parts

/-- Whether the last part of a name is a number. -/
def endsInNumber (name : List Char) : Bool :=
  match (dottedParts name).getLast? with
  | none => false
  | some last => (last ≠ [] && last.all Char.isDigit) || (ipv4Part? last).isSome

/-- How many values the last of so many numbers can take: it fills the bytes that the others leave.
-/
def addressSpace (count : Nat) : Nat := 1 <<< (8 * (5 - count))

/-- The address of up to four numbers: all but the last are bytes, and the last fills the rest. -/
def ipv4OfNumbers? (numbers : List Nat) : Option Nat :=
  match numbers.getLast? with
  | none => none
  | some last =>
    let bytes := numbers.dropLast
    if 4 < numbers.length ∨ bytes.any (255 < ·) ∨ addressSpace numbers.length ≤ last then none
    else some (bytes.foldl (fun n b => 256 * n + b) 0 * addressSpace numbers.length + last)

/-- The address that a name spells. -/
def ipv4? (name : List Char) : Option Nat := do
  let numbers ← (dottedParts name).mapM ipv4Part?
  ipv4OfNumbers? numbers

def ipv4Text (address : Nat) : String :=
  ".".intercalate ([24, 16, 8, 0].map fun shift => toString (address >>> shift % 256))

/-! ### Addresses of sixteen bytes -/

/-- A piece of an address: one to four hexadecimal digits. -/
def ipv6Piece? (digits : List Char) : Option Nat :=
  if digits = [] ∨ 4 < digits.length then none else number? 16 digits

/-- A byte in decimal without leading zeros. -/
def ipv6Byte? (digits : List Char) : Option Nat :=
  match digits with
  | '0' :: _ :: _ => none
  | [] => none
  | _ => if digits.all Char.isDigit then (number? 10 digits).filter (· ≤ 255) else none

/-- The pieces between colons, a dotted address of four bytes standing for the last two. -/
def ipv6Pieces? (text : List Char) : Option (List Nat) :=
  if text = [] then some []
  else
    let parts := cut ':' text
    match parts.getLast? with
    | some last =>
      if last.contains '.' then do
        let pieces ← parts.dropLast.mapM ipv6Piece?
        match ← (cut '.' last).mapM ipv6Byte? with
        | [a, b, c, d] => some (pieces ++ [256 * a + b, 256 * c + d])
        | _ => none
      else parts.mapM ipv6Piece?
    | none => none

/-- A text cut at its first double colon. -/
def splitGap : List Char → Option (List Char × List Char)
  | ':' :: ':' :: rest => some ([], rest)
  | c :: rest => (splitGap rest).map fun (a, b) => (c :: a, b)
  | [] => none

/-- The address that a text between brackets spells. One double colon stands for zeros. -/
def ipv6? (text : List Char) : Option (List Nat) :=
  match splitGap text with
  | none => (ipv6Pieces? text).filter (·.length = 8)
  | some (before, after) => do
    let a ← if before.contains '.' then none else ipv6Pieces? before
    let b ← ipv6Pieces? after
    if a.length + b.length < 8 then
      some (a ++ List.replicate (8 - a.length - b.length) 0 ++ b)
    else none

/-- How many zero pieces a list starts with. -/
def zeroRun (pieces : List Nat) : Nat := (pieces.takeWhile (· = 0)).length

/-- Where the first longest run of at least two zeros starts, and how long it is. -/
def longestZeros (pieces : List Nat) : Option (Nat × Nat) :=
  (List.range pieces.length).foldl
    (fun best i =>
      let n := zeroRun (pieces.drop i)
      if 1 < n ∧ (best.map Prod.snd).getD 0 < n then some (i, n) else best)
    none

def hexText (n : Nat) : String := String.ofList (Nat.toDigits 16 n)

def ipv6Text (pieces : List Nat) : String :=
  let join (ps : List Nat) := ":".intercalate (ps.map hexText)
  match longestZeros pieces with
  | none => join pieces
  | some (i, n) => join (pieces.take i) ++ "::" ++ join (pieces.drop (i + n))

/-! ### Names -/

/-- What no host can hold. -/
def isForbidden (c : Char) : Bool :=
  ['\x00', '\t', '\n', '\r', ' ', '#', '/', ':', '<', '>', '?', '@', '[', '\\', ']', '^', '|'].contains
    c

/-- What no domain name can hold. -/
def isForbiddenInDomain (c : Char) : Bool := isForbidden c || Percent.isControl c || c = '%'

/-- The host that a text names in a special scheme. -/
def parse? (text : List Char) : Option Host :=
  match text with
  | '[' :: rest => if rest.getLast? = some ']' then (ipv6? rest.dropLast).map .ipv6 else none
  | _ => do
    let name ← Url.asciiName? (← Percent.decode? text)
    if name = [] ∨ name.any isForbiddenInDomain then none
    else if endsInNumber name then (ipv4? name).map .ipv4
    else some (.domain (String.ofList name))

/-- The host that a text names in any other scheme. -/
def parseVerbatim? (text : List Char) : Option Host :=
  match text with
  | '[' :: rest => if rest.getLast? = some ']' then (ipv6? rest.dropLast).map .ipv6 else none
  | _ =>
    if text.any isForbidden then none
    else some (.verbatim (String.ofList (Percent.encode Percent.isControl text)))

/-- The text of a host. -/
def text : Host → String
  | .domain name => name
  | .ipv4 address => ipv4Text address
  | .ipv6 pieces => "[" ++ ipv6Text pieces ++ "]"
  | .verbatim t => t

end Host

end MeshRoom
