import MeshRoom.Number.Format

/-!
# Shortest decimals

A magnitude of a binary format is a whole number of units, and `10 ^ unitBits` units of that
decimal size fill one: so each finite magnitude is a whole number over `10 ^ unitBits`. Its
shortest decimal is found by rounding that whole number to ever finer powers of ten, until a
neighbour on the grid reads back as the same code. Of two such neighbours the nearer is taken.

The last grid is that of single steps, where the number is its own neighbour; so the decimal found
always reads back.
-/

namespace MeshRoom

/-- A decimal magnitude `digits · 10 ^ exponent`. -/
structure Decimal where
  digits : Nat
  exponent : Int
deriving DecidableEq, Repr

/-- The neighbour of `n` on the grid of multiples of `10 ^ place` that passes the test, the nearer
if both do and the even one if they are equally near. -/
def gridHit (test : Nat → Bool) (n place : Nat) : Option Nat :=
  let step := Nat.pow 10 place
  let low := n / step
  match test (low * step), test ((low + 1) * step) with
  | false, false => none
  | true, false => some low
  | false, true => some (low + 1)
  | true, true => some (roundHalfEven n step)

/-- The coarsest hit, as a multiple and its place, on the grids from `10 ^ place` down to one. -/
def coarsestHit (test : Nat → Bool) (n : Nat) : Nat → Nat × Nat
  | 0 => (n, 0)
  | place + 1 =>
    match gridHit test n (place + 1) with
    | some c => (c, place + 1)
    | none => coarsestHit test n place

namespace Format

variable (f : Format)

/-- The shortest decimal that reads back as `code`. -/
def shortest (code : Nat) : Decimal :=
  let scale := Nat.pow 5 f.unitBits
  let n := f.units code * scale
  let places := (Nat.toDigits 10 n).length
  let (digits, place) := coarsestHit (fun m => f.round m scale == code) n (places - 1)
  ⟨digits, (place : Int) - f.unitBits⟩

end Format

/-! ### Layout -/

/-- How decimals are laid out: leading-digit exponents from `least` to `greatest` positionally,
with at least one digit on each side of the point, all others in scientific form. -/
structure Layout where
  least : Int
  greatest : Int
deriving DecidableEq, Repr

/-- The digits of `n` without trailing zeros, the first of them, and how many there were. -/
def significantDigits (n : Nat) : List Char :=
  ((Nat.toDigits 10 n).reverse.dropWhile (· = '0')).reverse

/-- A number with its sign always shown. -/
def signedExponent (e : Int) : List Char :=
  (if e < 0 then '-' else '+') :: Nat.toDigits 10 e.natAbs

/-- The text of a decimal: zero is `0.0`, and a scientific form has a point only if it has more
than one digit. -/
def Layout.text (l : Layout) (d : Decimal) : List Char :=
  if d.digits = 0 then ['0', '.', '0']
  else
    let digits := significantDigits d.digits
    let lead : Int := d.exponent + (Nat.toDigits 10 d.digits).length - 1
    if l.least ≤ lead ∧ lead ≤ l.greatest then
      match lead with
      | .ofNat e =>
        let whole := digits.take (e + 1)
        let fraction := digits.drop (e + 1)
        whole ++ List.replicate (e + 1 - digits.length) '0' ++ '.' ::
          (if fraction.isEmpty then ['0'] else fraction)
      | .negSucc e => '0' :: '.' :: List.replicate e '0' ++ digits
    else
      let fraction := digits.drop 1
      digits.take 1 ++ (if fraction.isEmpty then [] else '.' :: fraction) ++
        'e' :: signedExponent lead

end MeshRoom
