import Mathlib
import MeshRoom.Proofs.Number.Widening

/-!
# Patterns unpacked

Arithmetic unpacks patterns into signed zeros, infinities and magnitudes, works on those and packs
the result. The code and the sign of a pattern tell which of them it stands for, and what is packed
keeps its sign.
-/

namespace MeshRoom.Single

open Float.Model (UnpackedFloat)
open Float.Model.UnpackedFloat (Sign packComponents unpackMantissa unpackExponent unpackSign isNaNBits)

/-- The thirty-two bits of a single: a sign, eight bits of exponent, twenty-three of mantissa. -/
abbrev format : Float.Model.Format := .binary32

/-! ### Parts of a pattern -/

/-- The bits of the exponent. -/
def exponent (x : Single) : BitVec 8 := @unpackExponent format x.bits.toBitVec

/-- The bits of the mantissa. -/
def mantissa (x : Single) : BitVec 23 := @unpackMantissa format x.bits.toBitVec

/-- The sign of a pattern. -/
def sign (x : Single) : Sign := if x.negative then .negative else .positive

lemma toNat_exponent (x : Single) : x.exponent.toNat = x.bits.toNat / 2 ^ 23 % 2 ^ 8 := by
  simp [exponent, unpackExponent, Nat.shiftRight_eq_div_pow]

lemma toNat_mantissa (x : Single) : x.mantissa.toNat = x.bits.toNat % 2 ^ 23 := by
  simp [mantissa, unpackMantissa]

lemma code_parts (x : Single) : x.code = x.exponent.toNat * 2 ^ 23 + x.mantissa.toNat := by
  rw [toNat_exponent, toNat_mantissa, code, signBit]
  omega

lemma negative_iff (x : Single) : x.negative = true ↔ x.bits.toNat / 2 ^ 31 = 1 := by
  have hbits := x.bits.toNat_lt
  rw [negative, decide_eq_true_iff, signBit]
  omega

lemma sign_parts (x : Single) : Sign.ofBitVec (@unpackSign format x.bits.toBitVec) = x.sign := by
  have hbits := x.bits.toNat_lt
  have hnat : (@unpackSign format x.bits.toBitVec).toNat = x.bits.toNat / 2 ^ 31 := by
    simp [unpackSign, Nat.shiftRight_eq_div_pow]
    omega
  by_cases hneg : x.negative
  · have hone : @unpackSign format x.bits.toBitVec = 1#1 := by
      apply BitVec.eq_of_toNat_eq
      rw [hnat, x.negative_iff.1 hneg]
      rfl
    rw [hone, sign, if_pos hneg]
    rfl
  · have hzero : @unpackSign format x.bits.toBitVec = 0#1 := by
      rw [negative_iff] at hneg
      apply BitVec.eq_of_toNat_eq
      rw [hnat, BitVec.toNat_zero]
      omega
    rw [hzero, sign, if_neg hneg]
    rfl

/-- The pattern of a sign, an exponent and a mantissa. -/
def ofParts (s : Sign) (e : BitVec 8) (m : BitVec 23) : Single :=
  ⟨UInt32.ofBitVec (packComponents format s e m)⟩

lemma code_ofParts (s : Sign) (e : BitVec 8) (m : BitVec 23) :
    (ofParts s e m).code = e.toNat * 2 ^ 23 + m.toNat := by
  have he : (ofParts s e m).exponent = e := UnpackedFloat.unpackExponent_packComponents
  have hm : (ofParts s e m).mantissa = m := UnpackedFloat.unpackMantissa_packComponents
  rw [code_parts, he, hm]

lemma sign_ofParts (s : Sign) (e : BitVec 8) (m : BitVec 23) : (ofParts s e m).sign = s := by
  have hbits : @unpackSign format (ofParts s e m).bits.toBitVec = s.toBitVec :=
    @UnpackedFloat.unpackSign_packComponents format s e m
  rw [← sign_parts, hbits, UnpackedFloat.Sign.ofBitVec_toBitVec]

/-! ### Unpacking -/

/-- What a pattern stands for. -/
def unpack (x : Single) : UnpackedFloat := UnpackedFloat.unpack format x.bits.toBitVec

/-- What a pattern is unpacked into, by its parts. -/
inductive Unpacks (x : Single) : UnpackedFloat → Prop where
  | notANumber (he : x.exponent.toNat = 255) (hm : x.mantissa.toNat ≠ 0) : Unpacks x .notANumber
  | infinity (he : x.exponent.toNat = 255) (hm : x.mantissa.toNat = 0) :
      Unpacks x (.infinity x.sign)
  | zero (he : x.exponent.toNat = 0) (hm : x.mantissa.toNat = 0) : Unpacks x (.zero x.sign)
  | subnormal (he : x.exponent.toNat = 0) (hm : 0 < x.mantissa.toNat) :
      Unpacks x (.finite x.sign x.mantissa.toNat (-149) hm)
  | normal (hpos : x.exponent.toNat ≠ 0) (hlt : x.exponent.toNat ≠ 255) :
      Unpacks x (.finite x.sign (2 ^ 23 + x.mantissa.toNat) (x.exponent.toNat - 150)
        (Nat.add_pos_left (Nat.two_pow_pos 23) _))

/-- Before the mantissa of a normal number stands one more bit. -/
lemma toNat_append_mantissa (x : Single) :
    (1#1 ++ x.mantissa).toNat = 2 ^ 23 + x.mantissa.toNat := by
  have hm : x.mantissa.toNat < 2 ^ 23 := x.mantissa.isLt
  rw [BitVec.toNat_append, ← Nat.shiftLeft_add_eq_or_of_lt hm]
  rfl

lemma unpacks_unpack (x : Single) : Unpacks x x.unpack := by
  have hsplit : x.unpack = if x.exponent = -1#8 then
        if x.mantissa = 0#23 then .infinity x.sign else .notANumber
      else if x.exponent = 0#8 then
        if h : x.mantissa = 0#23 then .zero x.sign
        else .finite x.sign x.mantissa.toNat (x.exponent.toNat - 150 + 1)
          (by simpa [BitVec.toNat_pos, BitVec.pos_iff_ne_zero])
      else .finite x.sign (1#1 ++ x.mantissa).toNat (x.exponent.toNat - 150)
        (by rw [toNat_append_mantissa]; omega) := by
    rw [← sign_parts]
    rfl
  have hzero {n : Nat} {b : BitVec n} : b = 0#n ↔ b.toNat = 0 := by
    rw [← BitVec.toNat_inj, BitVec.toNat_zero]
  have hones : x.exponent = -1#8 ↔ x.exponent.toNat = 255 := BitVec.toNat_inj.symm
  rw [hsplit]
  split
  case isTrue hexp =>
    split
    case isTrue hmant => exact .infinity (hones.1 hexp) (hzero.1 hmant)
    case isFalse hmant => exact .notANumber (hones.1 hexp) (mt hzero.2 hmant)
  case isFalse hexp =>
    split
    case isTrue hlow =>
      split
      case isTrue hmant => exact .zero (hzero.1 hlow) (hzero.1 hmant)
      case isFalse hmant =>
        have hexponent : (x.exponent.toNat : Int) - 150 + 1 = -149 := by
          rw [hzero.1 hlow]
          rfl
        simp only [hexponent]
        exact .subnormal (hzero.1 hlow) (Nat.pos_of_ne_zero (mt hzero.2 hmant))
    case isFalse hlow =>
      simp only [toNat_append_mantissa]
      exact .normal (mt hzero.2 hlow) (mt hones.2 hexp)

/-! ### Packing -/

/-- The pattern of what has been computed. -/
def pack (u : UnpackedFloat) : Single := ⟨UInt32.ofBitVec (UnpackedFloat.pack format u)⟩

/-- What is unpacked has a sign, if it is a number. -/
def HasSign (s : Sign) : UnpackedFloat → Prop
  | .infinity t | .zero t | .finite t _ _ _ => t = s
  | .notANumber => False

lemma pack_infinity (s : Sign) : pack (.infinity s) = ofParts s (-1#8) 0#23 := rfl

lemma pack_zero (s : Sign) : pack (.zero s) = ofParts s 0#8 0#23 := rfl

lemma pack_finite (s : Sign) (m : Nat) (e : Int) (hm : 0 < m) : pack (.finite s m e hm)
    = if 2 ^ 8 ≤ (e + 127 + 23).toNat + 1 then ofParts s (-1#8) 0#23
      else if m.log2 + 1 = 24 then ofParts s (.ofNat 8 (e + 127 + 23).toNat) (.ofNat 23 m)
      else ofParts s 0#8 (.ofNat 23 m) := by
  have hsplit : pack (.finite s m e hm) = ⟨UInt32.ofBitVec
      (if 2 ^ 8 ≤ (e + 127 + 23).toNat + 1 then packComponents format s (-1#8) 0#23
      else if m.log2 + 1 = 24 then
        packComponents format s (.ofNat 8 (e + 127 + 23).toNat) (.ofNat 23 m)
      else packComponents format s 0#8 (.ofNat 23 m))⟩ := rfl
  rw [hsplit]
  split
  case isTrue => rfl
  case isFalse =>
    split
    case isTrue => rfl
    case isFalse => rfl

/-- What is packed is a number of the sign that it had. -/
lemma exists_pack {s : Sign} {u : UnpackedFloat} (h : HasSign s u) : ∃ e m,
    pack u = ofParts s e m ∧ (e.toNat < 255 ∨ e.toNat = 255 ∧ m.toNat = 0) := by
  cases u with
  | notANumber => cases h
  | infinity t =>
    obtain rfl : t = s := h
    exact ⟨_, _, pack_infinity t, .inr ⟨rfl, rfl⟩⟩
  | zero t =>
    obtain rfl : t = s := h
    exact ⟨_, _, pack_zero t, .inl (by decide)⟩
  | finite t m e hm =>
    obtain rfl : t = s := h
    rw [pack_finite]
    split
    case isTrue => exact ⟨_, _, rfl, .inr ⟨rfl, rfl⟩⟩
    case isFalse hsmall =>
      split
      case isTrue =>
        refine ⟨_, _, rfl, .inl ?_⟩
        rw [BitVec.toNat_ofNat]
        omega
      case isFalse => exact ⟨_, _, rfl, .inl (by decide)⟩

lemma numeric_pack {s : Sign} {u : UnpackedFloat} (h : HasSign s u) : (pack u).Numeric := by
  obtain ⟨e, m, hpack, hparts⟩ := exists_pack h
  have hlimit : Format.single.limit = 255 * 2 ^ 23 := by decide
  have hm : m.toNat < 2 ^ 23 := m.isLt
  refine decide_eq_false ?_
  rw [hpack, code_ofParts]
  omega

lemma sign_pack {s : Sign} {u : UnpackedFloat} (h : HasSign s u) : (pack u).sign = s := by
  obtain ⟨e, m, hpack, -⟩ := exists_pack h
  rw [hpack, sign_ofParts]

lemma isNaNBits_iff (x : Single) : @isNaNBits format x.bits.toBitVec = true ↔ ¬x.Numeric := by
  have hones : x.exponent = -1#8 ↔ x.exponent.toNat = 255 := BitVec.toNat_inj.symm
  have hzero : x.mantissa = 0#23 ↔ x.mantissa.toNat = 0 := BitVec.toNat_inj.symm
  have hlimit : Format.single.limit = 255 * 2 ^ 23 := by decide
  have hexponent : x.exponent.toNat < 2 ^ 8 := x.exponent.isLt
  have hmantissa : x.mantissa.toNat < 2 ^ 23 := x.mantissa.isLt
  calc @isNaNBits format x.bits.toBitVec = true
    _ ↔ x.exponent = -1#8 ∧ x.mantissa ≠ 0#23 := decide_eq_true_iff
    _ ↔ Format.single.limit < x.code := by
      rw [hones, ne_eq, hzero, code_parts, hlimit]
      omega
    _ ↔ ¬x.Numeric := by
      rw [Numeric, isNaN, decide_eq_false_iff_not, not_not]

/-- A number that is unpacked is packed into its pattern. -/
lemma pack_unpack {x : Single} (h : x.Numeric) : pack x.unpack = x := by
  have hbits : x.unpack.pack format = x.bits.toBitVec := by
    rw [unpack, UnpackedFloat.pack_unpack, if_neg fun hnan => x.isNaNBits_iff.1 hnan h]
  exact congrArg (fun b => Single.mk (.ofBitVec b)) hbits

/-! ### Kinds of numbers -/

/-- A number is unpacked into one of its sign. -/
lemma hasSign_unpack {x : Single} (h : x.Numeric) : HasSign x.sign x.unpack := by
  have hcode : ¬ Format.single.limit < x.code := of_decide_eq_false h
  have hlimit : Format.single.limit = 255 * 2 ^ 23 := by decide
  rw [code_parts] at hcode
  have hunpacks := x.unpacks_unpack
  generalize x.unpack = u at hunpacks ⊢
  cases hunpacks with
  | notANumber => omega
  | infinity | zero | subnormal | normal => exact rfl

/-- What is no number is unpacked into no number. -/
lemma unpack_of_not_numeric {x : Single} (h : ¬ x.Numeric) : x.unpack = .notANumber := by
  have hcode : Format.single.limit < x.code := by
    by_contra hle
    exact h (decide_eq_false hle)
  have hlimit : Format.single.limit = 255 * 2 ^ 23 := by decide
  have hexponent : x.exponent.toNat < 2 ^ 8 := x.exponent.isLt
  have hmantissa : x.mantissa.toNat < 2 ^ 23 := x.mantissa.isLt
  rw [code_parts] at hcode
  have hunpacks := x.unpacks_unpack
  generalize x.unpack = u at hunpacks ⊢
  cases hunpacks with
  | notANumber => rfl
  | infinity | zero | subnormal | normal => omega

/-- A finite number is unpacked into a finite one. -/
lemma isFinite_unpack {x : Single} (h : x.isFinite) : x.unpack.isFinite = true := by
  have hcode : x.code < Format.single.limit := of_decide_eq_true h
  have hlimit : Format.single.limit = 255 * 2 ^ 23 := by decide
  rw [code_parts] at hcode
  have hunpacks := x.unpacks_unpack
  generalize x.unpack = u at hunpacks ⊢
  cases hunpacks with
  | notANumber | infinity => omega
  | zero | subnormal | normal => rfl

/-- A finite number that is not zero is unpacked into a magnitude. -/
lemma exists_unpack {x : Single} (h : x.isFinite) (hcode : x.code ≠ 0) :
    ∃ m e hm, x.unpack = .finite x.sign m e hm := by
  have hfinite := isFinite_unpack h
  rw [code_parts] at hcode
  have hunpacks := x.unpacks_unpack
  generalize x.unpack = u at hunpacks hfinite ⊢
  cases hunpacks with
  | notANumber | infinity => cases hfinite
  | zero => omega
  | subnormal | normal => exact ⟨_, _, _, rfl⟩

/-- The patterns of the code zero are those of the zeros. -/
lemma unpack_of_code_eq_zero {x : Single} (h : x.code = 0) : x.unpack = .zero x.sign := by
  rw [code_parts] at h
  have hunpacks := x.unpacks_unpack
  generalize x.unpack = u at hunpacks ⊢
  cases hunpacks with
  | zero => rfl
  | notANumber | infinity | subnormal | normal => omega

lemma code_pack_zero (s : Sign) : (pack (.zero s)).code = 0 := by
  rw [pack_zero, code_ofParts]
  rfl

lemma unpack_pack_unpack (x : Single) : (pack x.unpack).unpack = x.unpack := by
  by_cases h : x.Numeric
  · rw [pack_unpack h]
  · rw [unpack_of_not_numeric h]
    rfl

end MeshRoom.Single
