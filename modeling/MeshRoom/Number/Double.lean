import MeshRoom.Number.Shortest

/-!
# Finite doubles

The real numbers a document can hold: a sign and the code of a finite double-precision magnitude.
Two zeros are kept apart.
-/

namespace MeshRoom

/-- A finite double-precision number. -/
structure Double where
  negative : Bool
  code : Nat
  finite : code < Format.double.limit
deriving DecidableEq

namespace Double

/-- The double of a sign and a code, unless the code is that of infinity. -/
def ofCode? (negative : Bool) (code : Nat) : Option Double :=
  if h : code < Format.double.limit then some ⟨negative, code, h⟩ else none

/-- The double nearest to a signed decimal, unless that overflows. -/
def ofDecimal? (negative : Bool) (d : Decimal) : Option Double :=
  ofCode? negative (Format.double.ofDecimal d.digits d.exponent)

/-- Doubles are positional from five places behind the point to sixteen digits before it. -/
def layout : Layout := ⟨-5, 15⟩

/-- The shortest text that reads back. -/
def text (x : Double) : List Char :=
  (if x.negative then ['-'] else []) ++ layout.text (Format.double.shortest x.code)

end Double

end MeshRoom
