import MeshRoom.Geometry.Vector
import Mathlib.Tactic.Lemma

/-!
# Numbers that agree with themselves

Patterns that are not numbers agree with nothing. All others agree with themselves, and whatever is
rounded from a whole number or a double is a number, if perhaps an infinite one.
-/

namespace MeshRoom

namespace Format

lemma round_le_limit (f : Format) (num den : Nat) : f.round num den ≤ f.limit :=
  Nat.min_le_left _ _

end Format

namespace Single

/-- The pattern is that of a number. -/
def Numeric (x : Single) : Prop := x.isNaN = false

lemma Numeric.agrees_self {x : Single} (h : x.Numeric) : x.agrees x := by
  simp [agrees, show x.isNaN = false from h]

lemma code_ofCode {negative : Bool} {code : Nat} (h : code ≤ Format.single.limit) :
    (ofCode negative code).code = code := by
  have hlimit : Format.single.limit = 2139095040 := by decide
  simp only [ofCode, Single.code, signBit, UInt32.toNat_ofNat']
  cases negative with
  | false => simp only [Bool.false_eq_true, if_false]; omega
  | true => simp only [if_true]; omega

lemma numeric_ofCode {negative : Bool} {code : Nat} (h : code ≤ Format.single.limit) :
    (ofCode negative code).Numeric := by
  rw [Numeric, isNaN, code_ofCode h]
  exact decide_eq_false (Nat.not_lt.2 h)

lemma numeric_ofInt (i : Int) : (ofInt i).Numeric := numeric_ofCode (Format.round_le_limit _ _ _)

lemma numeric_narrow (x : Double) : (narrow x).Numeric :=
  numeric_ofCode (Format.round_le_limit _ _ _)

end Single

/-! ### Vectors -/

/-- All coordinates are numbers. -/
def Vec3.Numeric (a : Vec3) : Prop := a.x.Numeric ∧ a.y.Numeric ∧ a.z.Numeric

/-- Both coordinates are numbers. -/
def Vec2.Numeric (a : Vec2) : Prop := a.x.Numeric ∧ a.y.Numeric

lemma Vec3.Numeric.agrees_self {a : Vec3} (h : a.Numeric) : a.agrees a := by
  obtain ⟨hx, hy, hz⟩ := h
  rw [Vec3.agrees, hx.agrees_self, hy.agrees_self, hz.agrees_self]
  rfl

lemma Vec2.Numeric.agrees_self {a : Vec2} (h : a.Numeric) : a.agrees a := by
  obtain ⟨hx, hy⟩ := h
  rw [Vec2.agrees, hx.agrees_self, hy.agrees_self]
  rfl

end MeshRoom
