/-!
# Binary floating formats

A finite magnitude of a binary format is a whole number of *units*, the unit being the least
positive value of the format. Its *code* is the bit pattern without the sign: codes below
`Format.limit` are the finite magnitudes in increasing order, and the limit itself is infinity.

`Format.round` takes any ratio of units to the code of the nearest magnitude, ties to even.
-/

namespace MeshRoom

/-- The nearest whole number to `num / den`, a half going to the even neighbour. -/
def roundHalfEven (num den : Nat) : Nat :=
  let low := num / den
  let twice := 2 * (num % den)
  if den < twice ∨ (twice = den ∧ low % 2 = 1) then low + 1 else low

/-- A binary interchange format: explicit significand bits and exponent bits. -/
structure Format where
  fractionBits : Nat
  exponentBits : Nat
deriving DecidableEq, Repr

namespace Format

/-- Thirty-two bits: eight of exponent, twenty-three of fraction. -/
def single : Format := ⟨23, 8⟩

/-- Sixty-four bits: eleven of exponent, fifty-two of fraction. -/
def double : Format := ⟨52, 11⟩

variable (f : Format)

/-- Number of codes in one binade. -/
def binade : Nat := 1 <<< f.fractionBits

/-- The code of infinity. -/
def limit : Nat := (1 <<< f.exponentBits - 1) * f.binade

/-- The unit is two to the power of minus this. -/
def unitBits : Nat := 1 <<< (f.exponentBits - 1) + f.fractionBits - 2

/-! ### Codes and units -/

/-- The magnitude of a finite code, counted in units. -/
def units (code : Nat) : Nat :=
  if code < f.binade then code
  else (f.binade + code % f.binade) <<< (code / f.binade - 1)

/-- How many low bits of a magnitude of `whole` units the format cannot hold. -/
def excess (whole : Nat) : Nat :=
  if whole < 2 * f.binade then 0 else whole.log2 - f.fractionBits

/-- The code nearest to `num / den` units; everything from the limit on is infinity. -/
def round (num den : Nat) : Nat :=
  let drop := f.excess (num / den)
  min f.limit (drop * f.binade + roundHalfEven num (den <<< drop))

/-! ### Decimals -/

/-- The code nearest to `digits · 10 ^ exponent`. Beyond the reach on either side the answer does
not depend on the digits, so no power of ten is formed there. -/
def ofDecimal (digits : Nat) (exponent : Int) : Nat :=
  if digits = 0 then 0
  else
    let reach : Int := f.unitBits + (Nat.toDigits 10 digits).length
    if exponent < -reach then 0
    else if reach < exponent then f.limit
    else match exponent with
      | .ofNat e => f.round ((digits * Nat.pow 10 e) <<< f.unitBits) 1
      | .negSucc e => f.round (digits <<< f.unitBits) (Nat.pow 10 (e + 1))

end Format

end MeshRoom
