/-!
# Punycode

A label with characters beyond ASCII is written in ASCII: first its ASCII characters, then, in the
order of their values, the insertions of the others. Pairs of a value and a place are passed through
in order, a value with all its places before the next one, and of each insertion it is written how
many pairs were skipped before it. Such a count is written in digits whose thresholds, by the bias,
adapt to the label.
-/

namespace MeshRoom.Punycode

/-! ### Counts -/

/-- The digit of a value below thirty-six: letters, then figures. -/
def digit (d : Nat) : Char := Char.ofNat (if d < 26 then d + 97 else d + 22)

/-- The value of a digit. -/
def digitValue? (c : Char) : Option Nat :=
  if 'a' ≤ c ∧ c ≤ 'z' then some (c.toNat - 97)
  else if c.isDigit then some (c.toNat - 22)
  else none

/-- A digit at `position` below its threshold is the last one of a count. -/
def threshold (position bias : Nat) : Nat := min 26 (max 1 (position - bias))

theorem threshold_pos (position bias : Nat) : 0 < threshold position bias := by
  unfold threshold
  omega

/-- A count in digits, the least first. -/
def digits (bias position count : Nat) : List Char :=
  let t := threshold position bias
  if count < t then [digit count]
  else
    digit (t + (count - t) % (36 - t)) :: digits bias (position + 36) ((count - t) / (36 - t))
termination_by count
decreasing_by
  have := threshold_pos position bias
  exact Nat.lt_of_le_of_lt (Nat.div_le_self _ _) (by omega)

/-- The bias for counts of about this size, on top of what larger ones have added. -/
def biasOf (added size : Nat) : Nat :=
  if size ≤ 455 then added + 36 * size / (size + 38) else biasOf (added + 36) (size / 35)
termination_by size
decreasing_by omega

/-- The bias after a count, which led to a label of some length. -/
def adapt (count length : Nat) (first : Bool) : Nat :=
  let size := if first then count / 700 else count / 2
  biasOf 0 (size + size / length)

/-! ### Writing -/

/-- A character to insert, and its place among those that are there before. -/
structure Insertion where
  value : Nat
  place : Nat
deriving DecidableEq, Repr

/-- The insertions that make a label of its ASCII characters, in their order. -/
def insertions (label : List Char) : List Insertion :=
  let values := label.map Char.toNat
  let all := values.zipIdx.map fun (value, i) =>
    { value, place := (values.take i).countP (· ≤ value) : Insertion }
  (all.filter fun i => 0x80 ≤ i.value).mergeSort fun a b => a.value ≤ b.value

/-- Write insertions, `next` being the first pair that has not been passed through, and `length` the
length of the label with the first insertion done. -/
def writeInsertions (bias length : Nat) (first : Bool) (next : Insertion) :
    List Insertion → List Char
  | [] => []
  | i :: rest =>
    let count := (i.value - next.value) * length + i.place - next.place
    digits bias 36 count ++
      writeInsertions (adapt count length first) (length + 1) false { i with place := i.place + 1 }
        rest

/-- The ASCII form of a label, without the mark that it is one. -/
def encode (label : List Char) : List Char :=
  let plain := label.filter fun c => c.toNat < 0x80
  plain ++ (if plain.isEmpty then [] else ['-']) ++
    writeInsertions 72 (plain.length + 1) true ⟨0x80, 0⟩ (insertions label)

/-! ### Reading -/

/-- Where the reader stands: the label so far, the first pair that has not been passed through, the
bias, and the count that is being read, with the position and the weight of its next digit. -/
structure Reader where
  label : List Char
  next : Insertion := ⟨0x80, 0⟩
  bias : Nat := 72
  first : Bool := true
  position : Nat := 36
  weight : Nat := 1
  count : Nat := 0

/-- Insert a character after skipping `count` pairs. -/
def Reader.insert? (r : Reader) (count : Nat) : Option Reader :=
  let length := r.label.length + 1
  let value := r.next.value + (r.next.place + count) / length
  let place := (r.next.place + count) % length
  if value.isValidChar then
    some
      { label := r.label.insertIdx place (Char.ofNat value)
        next := ⟨value, place + 1⟩
        bias := adapt count length r.first
        first := false }
  else none

/-- Read a digit; the last one of a count inserts a character. -/
def Reader.read? (r : Reader) (c : Char) : Option Reader := do
  let d ← digitValue? c
  let count := r.count + d * r.weight
  let t := threshold r.position r.bias
  if t ≤ d then
    some { r with count, weight := r.weight * (36 - t), position := r.position + 36 }
  else r.insert? count

/-- The label of an ASCII form: its plain characters are those before the last hyphen. -/
def decode? (form : List Char) : Option (List Char) := do
  let digits := (form.reverse.takeWhile (· ≠ '-')).reverse
  let plain := form.take (form.length - digits.length - 1)
  let r ← digits.foldlM Reader.read? { label := plain }
  if r.position = 36 then some r.label else none

end MeshRoom.Punycode
