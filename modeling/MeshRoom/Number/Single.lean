import MeshRoom.Number.Double

/-!
# Single-precision numbers

Coordinates are single-precision numbers, held as bit patterns so that a buffer of them can be
written back unchanged, whatever its patterns.

Arithmetic is the usual one of thirty-two bits. Comparison is decided on the `rank` of a pattern,
a whole number that grows with the value and is the same for both zeros; patterns that are not
numbers compare with nothing, themselves included.
-/

namespace MeshRoom

/-- A single-precision number, by its bit pattern. -/
structure Single where
  bits : UInt32
deriving DecidableEq, Inhabited

namespace Single

/-! ### Parts -/

/-- The sign bit by itself. -/
def signBit : Nat := 0x80000000

/-- Whether the sign bit is set. -/
def negative (x : Single) : Bool := signBit ≤ x.bits.toNat

/-- The pattern without its sign bit. -/
def code (x : Single) : Nat := x.bits.toNat % signBit

/-- Neither infinite nor not a number. -/
def isFinite (x : Single) : Bool := x.code < Format.single.limit

def isNaN (x : Single) : Bool := Format.single.limit < x.code

/-- The single of a sign and a code. -/
def ofCode (negative : Bool) (code : Nat) : Single :=
  ⟨UInt32.ofNat (code + if negative then signBit else 0)⟩

/-! ### Arithmetic -/

def toFloat32 (x : Single) : Float32 := Float32.ofBits x.bits

def ofFloat32 (x : Float32) : Single := ⟨x.toBits⟩

instance : Add Single := ⟨fun x y => ofFloat32 (x.toFloat32 + y.toFloat32)⟩
instance : Sub Single := ⟨fun x y => ofFloat32 (x.toFloat32 - y.toFloat32)⟩
instance : Mul Single := ⟨fun x y => ofFloat32 (x.toFloat32 * y.toFloat32)⟩
instance : Div Single := ⟨fun x y => ofFloat32 (x.toFloat32 / y.toFloat32)⟩

def sqrt (x : Single) : Single := ofFloat32 x.toFloat32.sqrt

/-- The single nearest to a decimal. -/
def ofDecimal (digits : Nat) (exponent : Int) : Single :=
  ofCode false (Format.single.ofDecimal digits exponent)

/-- The single nearest to a whole number. -/
def ofInt (i : Int) : Single :=
  ofCode (i < 0) (Format.single.round (i.natAbs <<< Format.single.unitBits) 1)

instance (n : Nat) : OfNat Single n := ⟨ofInt n⟩

/-! ### Order -/

/-- Grows with the value; both zeros have rank zero. -/
def rank (x : Single) : Int := if x.negative then -x.code else x.code

/-- Numeric equality: zeros agree, and what is not a number agrees with nothing. -/
def agrees (x y : Single) : Bool := !x.isNaN && !y.isNaN && x.rank == y.rank

/-- Numeric order. -/
def below (x y : Single) : Bool := !x.isNaN && !y.isNaN && x.rank < y.rank

/-- The lesser of two, or the other one if one is not a number. -/
def least (x y : Single) : Single :=
  if x.isNaN then y else if y.below x then y else x

/-- The greater of two, or the other one if one is not a number. -/
def greatest (x y : Single) : Single :=
  if x.isNaN then y else if x.below y then y else x

/-! ### Doubles -/

/-- How many units of a double make one unit of a single, as a power of two. -/
def unitGap : Nat := Format.double.unitBits - Format.single.unitBits

/-- The same number in double precision, if it is finite. -/
def widen? (x : Single) : Option Double :=
  if x.isFinite then
    Double.ofCode? x.negative (Format.double.round (Format.single.units x.code <<< unitGap) 1)
  else none

/-- The single nearest to a double. -/
def narrow (x : Double) : Single :=
  ofCode x.negative (Format.single.round (Format.double.units x.code) (1 <<< unitGap))

/-! ### Text -/

/-- Singles are positional from six places behind the point to thirteen digits before it. -/
def layout : Layout := ⟨-6, 12⟩

/-- The shortest text of a finite single that reads back. -/
def text (x : Single) : List Char :=
  (if x.negative then ['-'] else []) ++ layout.text (Format.single.shortest x.code)

end Single

end MeshRoom
