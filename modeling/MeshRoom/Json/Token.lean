import MeshRoom.Json.Value
import MeshRoom.Text.Digits

/-!
# Tokens

A document is scanned character by character into tokens. The scanner is a transducer: its state
says what it stands inside of, and each character yields the tokens it completes.

Strings and numbers are kept even where they have no meaning as such (a lone surrogate, a number
beyond the doubles): a token says whether it has one, and only a reader that needs it refuses.
-/

namespace MeshRoom.Json

/-! ### Number literals -/

/-- The parts of a number as written. -/
structure Literal where
  negative : Bool
  whole : List Char
  fraction : Option (List Char)
  exponent : Option (Bool × List Char)
deriving DecidableEq, Repr

namespace Literal

/-- A whole part: a single zero, or digits that do not start with one. -/
def whole? (digits : List Char) : Option (List Char) :=
  match digits with
  | [] => none
  | ['0'] => some digits
  | '0' :: _ => none
  | _ => some digits

/-- The exponent that ends a literal, if any. -/
def exponent? : List Char → Option (Option (Bool × List Char))
  | [] => some none
  | c :: cs =>
    if c = 'e' ∨ c = 'E' then
      let (negative, digits) := match cs with
        | '-' :: ds => (true, ds)
        | '+' :: ds => (false, ds)
        | ds => (false, ds)
      if digits ≠ [] ∧ digits.all Char.isDigit then some (some (negative, digits)) else none
    else none

/-- The fraction after the whole part, if any, and what follows it. -/
def fraction? : List Char → Option (Option (List Char) × List Char)
  | '.' :: cs =>
    let digits := cs.takeWhile Char.isDigit
    if digits = [] then none else some (some digits, cs.dropWhile Char.isDigit)
  | cs => some (none, cs)

/-- The literal that a word spells, if it spells one. -/
def ofWord? (word : List Char) : Option Literal := do
  let (negative, unsigned) := match word with
    | '-' :: cs => (true, cs)
    | cs => (false, cs)
  let whole ← whole? (unsigned.takeWhile Char.isDigit)
  let (fraction, rest) ← fraction? (unsigned.dropWhile Char.isDigit)
  let exponent ← exponent? rest
  some ⟨negative, whole, fraction, exponent⟩

/-- The decimal a literal denotes, without its sign. -/
def decimal (l : Literal) : Decimal :=
  let fraction := l.fraction.getD []
  let scale : Int := match l.exponent with
    | none => 0
    | some (true, digits) => -Text.decimalValue digits
    | some (false, digits) => Text.decimalValue digits
  ⟨Text.decimalValue (l.whole ++ fraction), scale - fraction.length⟩

/-- Whether a literal is a plain integer. Minus zero is not one: it keeps its sign as a double. -/
def isInteger (l : Literal) : Bool :=
  l.fraction.isNone && l.exponent.isNone && !(l.negative && Text.decimalValue l.whole == 0)

/-- The number a literal denotes: an integer if it is one and fits, else the nearest double unless
that overflows. -/
def number? (l : Literal) : Option Number :=
  let i : Int := if l.negative then -Text.decimalValue l.whole else Text.decimalValue l.whole
  if h : l.isInteger ∧ Number.Fits i then some (.integer i h.2)
  else (Double.ofDecimal? l.negative l.decimal).map .real

end Literal

/-! ### String pieces -/

/-- A piece of a string between quotes: a character, or an escaped unit of sixteen bits. -/
inductive Piece where
  | char (c : Char)
  | unit (u : Nat)
deriving DecidableEq, Repr

namespace Piece

/-- The string that pieces spell. Surrogate units must come in pairs, high before low. -/
def assemble? : List Piece → Option (List Char)
  | [] => some []
  | .char c :: ps => (assemble? ps).map (c :: ·)
  | .unit u :: ps =>
    if u < 0xD800 ∨ 0xDFFF < u then (assemble? ps).map (Char.ofNat u :: ·)
    else match ps with
      | .unit v :: ps =>
        if u ≤ 0xDBFF ∧ 0xDC00 ≤ v ∧ v ≤ 0xDFFF then
          (assemble? ps).map (Char.ofNat (0x10000 + (u - 0xD800) * 0x400 + (v - 0xDC00)) :: ·)
        else none
      | _ => none

/-- The character that a one-letter escape stands for. -/
def ofEscape? : Char → Option Char
  | '"' => some '"'
  | '\\' => some '\\'
  | '/' => some '/'
  | 'b' => some '\x08'
  | 'f' => some '\x0c'
  | 'n' => some '\n'
  | 'r' => some '\r'
  | 't' => some '\t'
  | _ => none

end Piece

/-! ### Tokens -/

/-- A token of a document. A string or number without meaning is `none`. -/
inductive Token where
  | openArray
  | closeArray
  | openObject
  | closeObject
  | comma
  | colon
  | null
  | bool (b : Bool)
  | number (n : Option Number)
  | string (s : Option String)
deriving DecidableEq

namespace Token

/-- The token of a punctuation character. -/
def ofPunctuation? : Char → Option Token
  | '[' => some openArray
  | ']' => some closeArray
  | '\x7b' => some openObject
  | '\x7d' => some closeObject
  | ',' => some comma
  | ':' => some colon
  | _ => none

/-- The token that a word spells: a constant or a number. -/
def ofWord? (word : List Char) : Option Token :=
  if word = ['n', 'u', 'l', 'l'] then some null
  else if word = ['t', 'r', 'u', 'e'] then some (bool true)
  else if word = ['f', 'a', 'l', 's', 'e'] then some (bool false)
  else (Literal.ofWord? word).map fun l => number l.number?

end Token

/-- The blanks between tokens: space, tab and the two line ends. -/
def isBlank (c : Char) : Bool := c = ' ' || c = '\t' || c = '\n' || c = '\r'

/-- The characters of constants and numbers. -/
def isWordChar (c : Char) : Bool := c.isAlphanum || c = '-' || c = '+' || c = '.'

/-! ### The scanner -/

/-- What the scanner stands inside of, with what it has read there, latest first. -/
inductive Scan where
  | between
  | word (chars : List Char)
  | string (pieces : List Piece)
  | escape (pieces : List Piece)
  | unit (pieces : List Piece) (value missing : Nat)
deriving DecidableEq, Repr

namespace Scan

/-- A character that follows a token or a blank. -/
def enter (c : Char) : Option (List Token × Scan) :=
  if isBlank c then some ([], between)
  else if c = '"' then some ([], string [])
  else if isWordChar c then some ([], word [c])
  else (Token.ofPunctuation? c).map fun t => ([t], between)

/-- The token of a finished word. -/
def finishWord (chars : List Char) : Option Token := Token.ofWord? chars.reverse

/-- One character: the tokens it completes, and where the scanner stands then. -/
def step : Scan → Char → Option (List Token × Scan)
  | between, c => enter c
  | word chars, c =>
    if isWordChar c then some ([], word (c :: chars))
    else do
      let t ← finishWord chars
      let (ts, s) ← enter c
      some (t :: ts, s)
  | string pieces, c =>
    if c = '"' then
      some ([.string ((Piece.assemble? pieces.reverse).map String.ofList)], between)
    else if c = '\\' then some ([], escape pieces)
    else if c.toNat < 0x20 then none
    else some ([], string (.char c :: pieces))
  | escape pieces, c =>
    if c = 'u' then some ([], unit pieces 0 4)
    else (Piece.ofEscape? c).map fun e => ([], string (.char e :: pieces))
  | unit pieces value missing, c => do
    let digit ← Text.hexValue? c
    let value := 16 * value + digit
    if missing ≤ 1 then some ([], string (.unit value :: pieces))
    else some ([], unit pieces value (missing - 1))

/-- The end of the document: the token it completes, unless a string is still open. -/
def finish : Scan → Option (List Token)
  | between => some []
  | word chars => (finishWord chars).map ([·])
  | _ => none

/-- The tokens of the characters from a state on. -/
def run (s : Scan) : List Char → Option (List Token)
  | [] => s.finish
  | c :: cs => do
    let (ts, s') ← s.step c
    let rest ← s'.run cs
    some (ts ++ rest)

end Scan

end MeshRoom.Json
