import MeshRoom.Text.Direction
import MeshRoom.Text.Joining
import MeshRoom.Url.Folding
import MeshRoom.Url.Punycode

/-!
# Labels of names

A name is a list of labels. A label beyond ASCII is written in an ASCII form under a mark; a label
that carries the mark has to be that form of another one. In a name with letters from right to left
every label keeps to one direction.
-/

namespace MeshRoom.Url

open Text

/-- What marks a label as an ASCII form. -/
def asciiMark : List Char := "xn--".toList

/-- A label: what it spells, and how it is written in ASCII. -/
structure Label where
  spelled : List Char
  written : List Char
deriving DecidableEq, Repr

/-- Whether a label beyond ASCII is well formed. -/
def isProper (label : List Char) : Bool := !startsWithMark label && joinersFit [] label

/-- The label that a marked one spells: beyond ASCII, folded, unmarked, and written in just this
form. -/
def unmark? (form : List Char) : Option (List Char) := do
  let label ← Punycode.decode? form
  if !isAscii label ∧ fold? label = some label ∧ isProper label ∧ !asciiMark.isPrefixOf label ∧
    Punycode.encode label = form then some label
  else none

/-- Read a folded label. -/
def Label.ofFolded? (label : List Char) : Option Label :=
  if asciiMark.isPrefixOf label then
    if isAscii label then (unmark? (label.drop asciiMark.length)).map (⟨·, label⟩) else none
  else if isAscii label then some ⟨label, label⟩
  else if isProper label then some ⟨label, asciiMark ++ Punycode.encode label⟩
  else none

/-- A text cut at every occurrence of a character. -/
def cut (sep : Char) : List Char → List (List Char)
  | [] => [[]]
  | c :: cs =>
    match cut sep cs with
    | [] => [[c]]
    | part :: parts => if c = sep then [] :: part :: parts else (c :: part) :: parts

/-- A name in lower case and ASCII. -/
def asciiName? (name : List Char) : Option (List Char) := do
  let labels ← (cut '.' (← fold? name)).mapM Label.ofFolded?
  let spelled := labels.map Label.spelled
  if spelled.any (·.any asksForDirection) ∧ !spelled.all keepsDirection then none
  else some (labels.map Label.written |>.intersperse ['.']).flatten

end MeshRoom.Url
