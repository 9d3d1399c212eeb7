import MeshRoom.Proofs.Number.Unpacking

/-!
# Arithmetic up to the signs of zeros

Sums, differences and products of numbers that differ in the sign of a zero at most differ in the
sign of a zero at most; the square of a number and what is computed from squares do not differ at
all. The rank of a pattern tells it up to the sign of a zero.

Where no infinity meets its opposite or a zero the result is a number; sums of squares and their
roots are numbers that are not negative.
-/

namespace MeshRoom.Single

open Float.Model (UnpackedFloat)
open Float.Model.UnpackedFloat (Sign Accuracy roundWithAccuracy round decreaseExponent)

/-! ### Operations on patterns -/

lemma add_eq (x y : Single) : x + y = pack (.add format x.unpack y.unpack) := by
  have hadd : x + y = pack (.add format (pack x.unpack).unpack (pack y.unpack).unpack) := rfl
  rw [hadd, unpack_pack_unpack, unpack_pack_unpack]

lemma sub_eq (x y : Single) : x - y = pack (.sub format x.unpack y.unpack) := by
  have hsub : x - y = pack (.sub format (pack x.unpack).unpack (pack y.unpack).unpack) := rfl
  rw [hsub, unpack_pack_unpack, unpack_pack_unpack]

lemma mul_eq (x y : Single) : x * y = pack (.mul format x.unpack y.unpack) := by
  have hmul : x * y = pack (.mul format (pack x.unpack).unpack (pack y.unpack).unpack) := rfl
  rw [hmul, unpack_pack_unpack, unpack_pack_unpack]

lemma sqrt_eq (x : Single) : x.sqrt = pack (.sqrt format x.unpack) := by
  have hsqrt : x.sqrt = pack (.sqrt format (pack x.unpack).unpack) := rfl
  rw [hsqrt, unpack_pack_unpack]

/-! ### Signs of results -/

/-- What is unpacked is a number. -/
def IsNumber (u : UnpackedFloat) : Prop := ∃ s, HasSign s u

variable {s : Sign} {u v : UnpackedFloat}

lemma hasSign_roundWithAccuracy (s : Sign) (m : Nat) (e : Int) (a : Accuracy) :
    HasSign s (roundWithAccuracy format s m e a) := by
  rw [roundWithAccuracy]
  dsimp only
  split
  case isTrue => exact rfl
  case isFalse => exact rfl

lemma hasSign_round (s : Sign) (m : Nat) (e : Int) : HasSign s (round format s m e) :=
  hasSign_roundWithAccuracy _ _ _ _

lemma isNumber_normalize (m e : Int) (s : Sign) :
    IsNumber (UnpackedFloat.normalize format m e s) := by
  rw [UnpackedFloat.normalize]
  split
  · exact ⟨_, hasSign_round _ _ _⟩
  · exact ⟨_, rfl⟩
  · exact ⟨_, hasSign_round _ _ _⟩

/-- A magnitude that is not negative has a positive sign. -/
lemma hasSign_normalize {m : Int} (hm : 0 ≤ m) (e : Int) :
    HasSign .positive (UnpackedFloat.normalize format m e .positive) := by
  rw [UnpackedFloat.normalize]
  split
  case h_1 hlt =>
    rw [Int.compare_eq_lt] at hlt
    omega
  case h_2 => exact rfl
  case h_3 => exact hasSign_round _ _ _

/-- A number of a sign is infinite, zero, or a magnitude. -/
lemma HasSign.cases (h : HasSign s u) :
    u = .infinity s ∨ u = .zero s ∨ ∃ m e hm, u = .finite s m e hm := by
  cases u with
  | notANumber => cases h
  | infinity t =>
    obtain rfl : t = s := h
    exact .inl rfl
  | zero t =>
    obtain rfl : t = s := h
    exact .inr (.inl rfl)
  | finite t m e hm =>
    obtain rfl : t = s := h
    exact .inr (.inr ⟨m, e, hm, rfl⟩)

/-- The sum of two numbers that are not negative is a number that is not negative. -/
lemma HasSign.add (hu : HasSign .positive u) (hv : HasSign .positive v) :
    HasSign .positive (.add format u v) := by
  rcases hu.cases with rfl | rfl | ⟨m, e, hm, rfl⟩
  · rcases hv.cases with rfl | rfl | ⟨m', e', hm', rfl⟩ <;> exact rfl
  · rcases hv.cases with rfl | rfl | ⟨m', e', hm', rfl⟩ <;> exact rfl
  · rcases hv.cases with rfl | rfl | ⟨m', e', hm', rfl⟩
    · exact rfl
    · exact rfl
    · exact hasSign_normalize (Int.add_nonneg (Int.natCast_nonneg _) (Int.natCast_nonneg _)) _

/-- The square of a number is a number that is not negative. -/
lemma HasSign.mul_self (h : HasSign s u) : HasSign .positive (.mul format u u) := by
  have hsquare : s * s = .positive := by cases s <;> rfl
  rcases h.cases with rfl | rfl | ⟨m, e, hm, rfl⟩
  · exact hsquare
  · exact hsquare
  · rw [← hsquare]
    exact hasSign_roundWithAccuracy _ _ _ _

/-- The root of a number that is not negative is a number that is not negative. -/
lemma HasSign.sqrt (h : HasSign .positive u) : HasSign .positive (.sqrt format u) := by
  rcases h.cases with rfl | rfl | ⟨m, e, hm, rfl⟩
  · exact rfl
  · exact rfl
  · exact hasSign_roundWithAccuracy _ _ _ _

/-- The sum of two finite numbers is a number, if perhaps an infinite one. -/
lemma isNumber_add (hu : u.isFinite = true) (hv : v.isFinite = true) :
    IsNumber (.add format u v) := by
  cases u with
  | notANumber | infinity => cases hu
  | zero s =>
    cases v with
    | notANumber | infinity => cases hv
    | zero t => cases s <;> cases t <;> exact ⟨_, rfl⟩
    | finite t m e hm => exact ⟨_, rfl⟩
  | finite s m e hm =>
    cases v with
    | notANumber | infinity => cases hv
    | zero t => exact ⟨_, rfl⟩
    | finite t m' e' hm' => exact isNumber_normalize _ _ _

/-- So is the difference of a finite number and any number. -/
lemma isNumber_sub (hu : u.isFinite = true) (hv : HasSign s v) : IsNumber (.sub format u v) := by
  cases u with
  | notANumber | infinity => cases hu
  | zero t =>
    rcases hv.cases with rfl | rfl | ⟨m, e, hm, rfl⟩
    · exact ⟨_, rfl⟩
    · cases s <;> cases t <;> exact ⟨_, rfl⟩
    · exact ⟨_, rfl⟩
  | finite t m e hm =>
    rcases hv.cases with rfl | rfl | ⟨m', e', hm', rfl⟩
    · exact ⟨_, rfl⟩
    · exact ⟨_, rfl⟩
    · exact isNumber_normalize _ _ _

/-- So is the product of any number and a finite one that is not zero. -/
lemma isNumber_mul (hu : HasSign s u) {t : Sign} {m : Nat} {e : Int} {hm : 0 < m} :
    IsNumber (.mul format u (.finite t m e hm)) := by
  rcases hu.cases with rfl | rfl | ⟨m', e', hm', rfl⟩
  · exact ⟨_, rfl⟩
  · exact ⟨_, rfl⟩
  · exact ⟨_, hasSign_roundWithAccuracy _ _ _ _⟩

/-! ### Zeros of either sign -/

/-- The same, if not two zeros. -/
inductive Alike : UnpackedFloat → UnpackedFloat → Prop where
  | same (u : UnpackedFloat) : Alike u u
  | zeros (s t : Sign) : Alike (.zero s) (.zero t)

variable {u' v' : UnpackedFloat}

lemma Alike.trans {w : UnpackedFloat} (h : Alike u v) (h' : Alike v w) : Alike u w := by
  cases h with
  | same => exact h'
  | zeros s t =>
    cases h' with
    | same => exact .zeros s t
    | zeros t r => exact .zeros s r

/-- An operation for which the sign of a zero operand makes no greater difference preserves what is
alike. -/
lemma Alike.map₂ {op : UnpackedFloat → UnpackedFloat → UnpackedFloat}
    (hleft : ∀ s s' v, Alike (op (.zero s) v) (op (.zero s') v))
    (hright : ∀ u t t', Alike (op u (.zero t)) (op u (.zero t')))
    (hu : Alike u u') (hv : Alike v v') : Alike (op u v) (op u' v') := by
  have hfirst : Alike (op u v) (op u' v) := by
    cases hu with
    | same => exact .same _
    | zeros s s' => exact hleft s s' v
  have hsecond : Alike (op u' v) (op u' v') := by
    cases hv with
    | same => exact .same _
    | zeros t t' => exact hright u' t t'
  exact hfirst.trans hsecond

lemma Alike.add (hu : Alike u u') (hv : Alike v v') :
    Alike (.add format u v) (.add format u' v') := by
  refine map₂ (fun s s' v => ?_) (fun u t t' => ?_) hu hv
  · cases v with
    | notANumber | infinity | finite => exact .same _
    | zero t => cases s <;> cases s' <;> cases t <;> exact .zeros _ _
  · cases u with
    | notANumber | infinity | finite => exact .same _
    | zero s => cases s <;> cases t <;> cases t' <;> exact .zeros _ _

lemma Alike.sub (hu : Alike u u') (hv : Alike v v') :
    Alike (.sub format u v) (.sub format u' v') := by
  refine map₂ (fun s s' v => ?_) (fun u t t' => ?_) hu hv
  · cases v with
    | notANumber | infinity | finite => exact .same _
    | zero t => cases s <;> cases s' <;> cases t <;> exact .zeros _ _
  · cases u with
    | notANumber | infinity | finite => exact .same _
    | zero s => cases s <;> cases t <;> cases t' <;> exact .zeros _ _

lemma Alike.mul (hu : Alike u u') (hv : Alike v v') :
    Alike (.mul format u v) (.mul format u' v') := by
  refine map₂ (fun s s' v => ?_) (fun u t t' => ?_) hu hv
  · cases v with
    | notANumber | infinity => exact .same _
    | zero | finite => exact .zeros _ _
  · cases u with
    | notANumber | infinity => exact .same _
    | zero | finite => exact .zeros _ _

/-- Squares do not tell the sign of a zero. -/
lemma Alike.mul_self (h : Alike u u') :
    UnpackedFloat.mul format u u = UnpackedFloat.mul format u' u' := by
  cases h with
  | same u => rfl
  | zeros s t => cases s <;> cases t <;> rfl

/-! ### Ranks -/

variable {x x' y y' : Single}

/-- Patterns of one rank are the same, if not two zeros. -/
lemma rank_eq_iff : x.rank = y.rank ↔ x = y ∨ x.code = 0 ∧ y.code = 0 := by
  constructor
  · intro h
    have hsame (hsign : x.negative = y.negative) (hcode : x.code = y.code) : x = y := by
      rw [← ofCode_code x, ← ofCode_code y, hsign, hcode]
    rw [rank, rank] at h
    by_cases hx : x.negative
    · by_cases hy : y.negative
      · rw [if_pos hx, if_pos hy] at h
        exact .inl (hsame (hx.trans hy.symm) (by omega))
      · rw [if_pos hx, if_neg hy] at h
        exact .inr (by omega)
    · by_cases hy : y.negative
      · rw [if_neg hx, if_pos hy] at h
        exact .inr (by omega)
      · rw [if_neg hx, if_neg hy] at h
        exact .inl (hsame (by simp [hx, hy]) (by omega))
  · rintro (rfl | ⟨hx, hy⟩)
    · rfl
    · simp [rank, hx, hy]

lemma alike_of_rank_eq (h : x.rank = y.rank) : Alike x.unpack y.unpack := by
  rcases rank_eq_iff.1 h with rfl | ⟨hx, hy⟩
  · exact .same _
  · rw [unpack_of_code_eq_zero hx, unpack_of_code_eq_zero hy]
    exact .zeros _ _

lemma Alike.rank_pack (h : Alike u v) : (pack u).rank = (pack v).rank := by
  cases h with
  | same u => rfl
  | zeros s t => exact rank_eq_iff.2 (.inr ⟨code_pack_zero s, code_pack_zero t⟩)

lemma rank_add (hx : x.rank = x'.rank) (hy : y.rank = y'.rank) :
    (x + y).rank = (x' + y').rank := by
  rw [add_eq, add_eq]
  exact ((alike_of_rank_eq hx).add (alike_of_rank_eq hy)).rank_pack

lemma rank_sub (hx : x.rank = x'.rank) (hy : y.rank = y'.rank) :
    (x - y).rank = (x' - y').rank := by
  rw [sub_eq, sub_eq]
  exact ((alike_of_rank_eq hx).sub (alike_of_rank_eq hy)).rank_pack

lemma rank_mul (hx : x.rank = x'.rank) (hy : y.rank = y'.rank) :
    (x * y).rank = (x' * y').rank := by
  rw [mul_eq, mul_eq]
  exact ((alike_of_rank_eq hx).mul (alike_of_rank_eq hy)).rank_pack

lemma mul_self_of_rank_eq (h : x.rank = y.rank) : x * x = y * y := by
  rw [mul_eq, mul_eq, (alike_of_rank_eq h).mul_self]

/-! ### Numbers -/

/-- A number whose sign bit is clear. -/
structure Positive (x : Single) : Prop where
  numeric : x.Numeric
  sign : x.sign = .positive

lemma Positive.hasSign (h : x.Positive) : HasSign .positive x.unpack :=
  h.sign ▸ hasSign_unpack h.numeric

lemma positive_pack (h : HasSign .positive u) : (pack u).Positive :=
  ⟨numeric_pack h, sign_pack h⟩

lemma IsNumber.numeric_pack (h : IsNumber u) : (pack u).Numeric := by
  obtain ⟨s, hs⟩ := h
  exact Single.numeric_pack hs

lemma Positive.negative_eq (h : x.Positive) : x.negative = false := by
  have hsign := h.sign
  rw [Single.sign] at hsign
  split at hsign
  case isTrue => cases hsign
  case isFalse hneg => simpa using hneg

lemma Positive.rank_eq (h : x.Positive) : x.rank = x.code := by
  simp [rank, h.negative_eq]

/-- Positive numbers of one rank are the same. -/
lemma Positive.eq_of_rank_eq (hx : x.Positive) (hy : y.Positive) (h : x.rank = y.rank) :
    x = y := by
  rw [hx.rank_eq, hy.rank_eq, Int.natCast_inj] at h
  rw [← ofCode_code x, ← ofCode_code y, hx.negative_eq, hy.negative_eq, h]

lemma Positive.add (hx : x.Positive) (hy : y.Positive) : (x + y).Positive := by
  rw [add_eq]
  exact positive_pack (hx.hasSign.add hy.hasSign)

lemma Numeric.mul_self (h : x.Numeric) : (x * x).Positive := by
  rw [mul_eq]
  exact positive_pack (hasSign_unpack h).mul_self

lemma Positive.sqrt (h : x.Positive) : x.sqrt.Positive := by
  rw [sqrt_eq]
  exact positive_pack h.hasSign.sqrt

lemma numeric_add (hx : x.isFinite) (hy : y.isFinite) : (x + y).Numeric := by
  rw [add_eq]
  exact (isNumber_add (isFinite_unpack hx) (isFinite_unpack hy)).numeric_pack

lemma numeric_sub (hx : x.isFinite) (hy : y.Numeric) : (x - y).Numeric := by
  rw [sub_eq]
  exact (isNumber_sub (isFinite_unpack hx) (hasSign_unpack hy)).numeric_pack

lemma numeric_mul (hx : x.Numeric) (hy : y.isFinite) (hcode : y.code ≠ 0) : (x * y).Numeric := by
  obtain ⟨m, e, hm, hunpack⟩ := exists_unpack hy hcode
  rw [mul_eq, hunpack]
  exact (isNumber_mul (hasSign_unpack hx)).numeric_pack

end MeshRoom.Single
