/-!
# Base64

Bytes in groups of three as digits in groups of four, over the standard alphabet. A last group of
one or two bytes is padded. Reading accepts exactly what writing produces: padding is required and
the bits it stands for are zero.
-/

namespace MeshRoom.Base64

/-! ### Digits -/

/-- The digit of six bits. -/
def digit (n : Nat) : Char :=
  if n < 26 then Char.ofNat (n + 65)
  else if n < 52 then Char.ofNat (n + 71)
  else if n < 62 then Char.ofNat (n - 4)
  else if n = 62 then '+'
  else '/'

/-- The six bits of a digit. -/
def value? (c : Char) : Option Nat :=
  if 'A' ≤ c ∧ c ≤ 'Z' then some (c.toNat - 65)
  else if 'a' ≤ c ∧ c ≤ 'z' then some (c.toNat - 71)
  else if '0' ≤ c ∧ c ≤ '9' then some (c.toNat + 4)
  else if c = '+' then some 62
  else if c = '/' then some 63
  else none

/-! ### Groups -/

/-- The digits of the bytes. -/
def encode : List UInt8 → List Char
  | [] => []
  | [a] => [digit (a.toNat / 4), digit (a.toNat % 4 * 16), '=', '=']
  | [a, b] =>
    [digit (a.toNat / 4), digit (a.toNat % 4 * 16 + b.toNat / 16), digit (b.toNat % 16 * 4), '=']
  | a :: b :: c :: rest =>
    digit (a.toNat / 4) :: digit (a.toNat % 4 * 16 + b.toNat / 16) ::
      digit (b.toNat % 16 * 4 + c.toNat / 64) :: digit (c.toNat % 64) :: encode rest

/-- The byte of a first group of bits and of what the next digit has at its top. -/
def join (high low : Nat) : UInt8 := UInt8.ofNat (high + low)

/-- The one byte of two digits. -/
def decodeOne? (a b : Char) : Option (List UInt8) := do
  let x ← value? a
  let y ← value? b
  if y % 16 = 0 then some [join (x * 4) (y / 16)] else none

/-- The two bytes of three digits. -/
def decodeTwo? (a b c : Char) : Option (List UInt8) := do
  let x ← value? a
  let y ← value? b
  let z ← value? c
  if z % 4 = 0 then some [join (x * 4) (y / 16), join (y % 16 * 16) (z / 4)] else none

/-- The three bytes of four digits. -/
def decodeThree? (a b c d : Char) : Option (List UInt8) := do
  let x ← value? a
  let y ← value? b
  let z ← value? c
  let w ← value? d
  some [join (x * 4) (y / 16), join (y % 16 * 16) (z / 4), join (z % 4 * 64) w]

/-- The bytes that digits stand for. -/
def decode? : List Char → Option (List UInt8)
  | [] => some []
  | [a, b, '=', '='] => decodeOne? a b
  | [a, b, c, '='] => decodeTwo? a b c
  | a :: b :: c :: d :: rest => do
    let group ← decodeThree? a b c d
    let bytes ← decode? rest
    some (group ++ bytes)
  | _ => none

end MeshRoom.Base64
