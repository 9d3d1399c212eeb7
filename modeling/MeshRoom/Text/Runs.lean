/-!
# Tables of runs

Properties of characters change rarely along the code points, so a table says only where. It is
written as numbers in base thirty, each ended by its last digit: the digits are `a` to `z` and `0`
to `3`, and as last ones `A` to `Z` and `4` to `7`.
-/

namespace MeshRoom.Text

/-- The value of a digit, and whether it is the last one of its number. -/
def runDigit (c : Char) : Nat × Bool :=
  let n := c.toNat
  if 97 ≤ n then (n - 97, false)
  else if 65 ≤ n then (n - 65, true)
  else if n ≤ 51 then (n - 48 + 26, false)
  else (n - 52 + 26, true)

/-- The numbers of a text, the first of them being begun with `begun`. -/
def numbersFrom (begun : Nat) : List Char → List Nat
  | [] => []
  | c :: cs =>
    let (d, last) := runDigit c
    if last then (30 * begun + d) :: numbersFrom 0 cs else numbersFrom (30 * begun + d) cs

/-- The numbers of a text in lines. -/
def numbers (lines : List String) : List Nat := numbersFrom 0 (lines.flatMap String.toList)

/-- A number with a sign: the even ones are not negative. -/
def signed (n : Nat) : Int := if n % 2 = 0 then (n / 2 : Nat) else -((n / 2 : Nat) : Int) - 1

/-- A table of runs: where each starts, and its value. -/
abbrev Runs := List (Nat × Nat)

namespace Runs

/-- Runs from the distances between their starts, with values. -/
def ofNumbers (start : Nat) : List Nat → Runs
  | gap :: value :: rest => (start + gap, value) :: ofNumbers (start + gap) rest
  | _ => []

/-- Runs from the distances between their starts, the values being one and zero in turn. -/
def ofGaps (start value : Nat) : List Nat → Runs
  | [] => []
  | gap :: rest => (start + gap, value) :: ofGaps (start + gap) (1 - value) rest

/-- The value at a code point, zero before the first run. -/
def valueAt (value : Nat) (runs : Runs) (n : Nat) : Nat :=
  match runs with
  | [] => value
  | (start, v) :: rest => if n < start then value else valueAt v rest n

end Runs

end MeshRoom.Text
