import MeshRoom.Proofs.Number.Numeric
import MeshRoom.Proofs.Number.Rounding

/-!
# Single precision within double precision

Every finite single is a finite double: widened and narrowed again it is the pattern it was.
-/

namespace MeshRoom

namespace Format

variable {f : Format}

/-! ### Bounds of magnitudes -/

/-- The magnitude of a finite code has few significant bits, and ends below the last binade. -/
lemma exists_units {code : Nat} (h : code < f.limit) : ∃ m drop, f.units code = m * 2 ^ drop ∧
    m < 2 * f.binade ∧ m * 2 ^ drop < 2 ^ (f.fractionBits + (1 <<< f.exponentBits - 1)) := by
  rcases Nat.lt_or_ge code f.binade with hsmall | hlarge
  · refine ⟨code, 0, by rw [units, if_pos hsmall, Nat.pow_zero, Nat.mul_one], by omega, ?_⟩
    rw [Nat.pow_zero, Nat.mul_one, Nat.pow_add, ← binade_eq]
    exact Nat.lt_of_lt_of_le hsmall (Nat.le_mul_of_pos_right _ (Nat.two_pow_pos _))
  · obtain ⟨drop, m, rfl, hlow, hhigh⟩ := exists_of_le hlarge
    have hdrop : drop + 1 < 1 <<< f.exponentBits - 1 := by
      refine Nat.lt_of_mul_lt_mul_right (a := f.binade) (Nat.lt_of_le_of_lt ?_ h)
      rw [Nat.succ_mul]
      omega
    refine ⟨m, drop, units_of_le hlow hhigh, hhigh, ?_⟩
    calc m * 2 ^ drop < 2 * f.binade * 2 ^ drop :=
          Nat.mul_lt_mul_of_pos_right hhigh (Nat.two_pow_pos _)
      _ = 2 ^ (f.fractionBits + (drop + 1)) := by
          rw [binade_eq, ← Nat.pow_succ', ← Nat.pow_add]
          congr 1
          omega
      _ ≤ 2 ^ (f.fractionBits + (1 <<< f.exponentBits - 1)) :=
          Nat.pow_le_pow_right (by decide) (by omega)

/-- A whole number of units that has few significant bits and is not too great has a finite code. -/
lemma round_lt_limit {m shift top : Nat} (hm : m < 2 * f.binade)
    (h : m * 2 ^ shift < 2 ^ (f.fractionBits + top)) (hpos : 0 < top)
    (htop : top < 1 <<< f.exponentBits - 1) : f.round (m * 2 ^ shift) 1 < f.limit := by
  have hlimit : (top + 1) * f.binade ≤ f.limit := Nat.mul_le_mul_right _ htop
  have htwo : 2 * f.binade ≤ (top + 1) * f.binade := Nat.mul_le_mul_right _ (by omega)
  rcases @exists_of_bits f m shift hm with hsmall | ⟨drop, c, hdrop, heq, hlow, hhigh⟩
  · rw [round_whole hsmall]
    omega
  · rw [heq] at h ⊢
    rw [round_shifted hdrop hlow hhigh]
    have hlt : drop < top := by
      have hpow : 2 ^ (f.fractionBits + drop) ≤ c * 2 ^ drop := by
        rw [Nat.pow_add, ← binade_eq]
        exact Nat.mul_le_mul_right _ hlow
      have hexp : f.fractionBits + drop < f.fractionBits + top :=
        (Nat.pow_lt_pow_iff_right (by decide)).1 (Nat.lt_of_le_of_lt hpow h)
      omega
    have hcode : (drop + 2) * f.binade ≤ (top + 1) * f.binade := Nat.mul_le_mul_right _ (by omega)
    rw [Nat.add_mul] at hcode
    omega

end Format

namespace Single

open Format

/-! ### Patterns -/

/-- A pattern is that of its sign and its code. -/
lemma ofCode_code (x : Single) : ofCode x.negative x.code = x := by
  have hbits := x.bits.toNat_lt
  refine congrArg Single.mk (UInt32.toNat_inj.1 ?_)
  simp only [Single.negative, Single.code, signBit, UInt32.toNat_ofNat']
  by_cases hsign : 0x80000000 ≤ x.bits.toNat
  · simp only [hsign, decide_true, if_true]
    omega
  · simp only [hsign, decide_false, Bool.false_eq_true, if_false]
    omega

lemma numeric_of_isFinite {x : Single} (h : x.isFinite) : x.Numeric := by
  simp only [isFinite, decide_eq_true_eq] at h
  exact decide_eq_false (by omega)

/-! ### Widening -/

/-- In double precision a finite single has as many units as it should. -/
lemma units_widened {x : Single} (h : x.code < single.limit) :
    double.round (single.units x.code <<< unitGap) 1 < double.limit ∧
      double.units (double.round (single.units x.code <<< unitGap) 1)
        = single.units x.code <<< unitGap := by
  obtain ⟨m, drop, hunits, hm, hbound⟩ := exists_units h
  have hbits : m < 2 * double.binade := Nat.lt_trans hm (by decide)
  have hshift : single.units x.code <<< unitGap = m * 2 ^ (drop + unitGap) := by
    rw [hunits, Nat.shiftLeft_eq, Nat.mul_assoc, ← Nat.pow_add]
  have hgreat : m * 2 ^ (drop + unitGap) < 2 ^ (double.fractionBits + 1151) := by
    have htop : double.fractionBits + 1151
        = single.fractionBits + (1 <<< single.exponentBits - 1) + unitGap := by decide
    rw [htop, Nat.pow_add 2 drop, Nat.pow_add 2 _ unitGap, ← Nat.mul_assoc]
    exact Nat.mul_lt_mul_of_pos_right hbound (Nat.two_pow_pos _)
  have hfinite : double.round (m * 2 ^ (drop + unitGap)) 1 < double.limit :=
    round_lt_limit hbits hgreat (by decide) (by decide)
  rw [hshift]
  exact ⟨hfinite, units_round hbits hfinite⟩

/-- A finite single is a double that narrows to it again. -/
theorem exists_widen? {x : Single} (h : x.isFinite) :
    ∃ d, x.widen? = some d ∧ narrow d = x := by
  have hcode : x.code < single.limit := of_decide_eq_true h
  obtain ⟨hfinite, hunits⟩ := units_widened hcode
  refine ⟨⟨x.negative, _, hfinite⟩, ?_, ?_⟩
  · rw [widen?, if_pos h, Double.ofCode?, dif_pos hfinite]
  · have hround : single.round (single.units x.code <<< unitGap) (1 <<< unitGap) = x.code := by
      have hmul := round_mul (f := single) (Nat.two_pow_pos unitGap) (single.units x.code) 1
      rw [Nat.one_mul, ← Nat.shiftLeft_eq, ← Nat.one_shiftLeft] at hmul
      rw [hmul, round_units hcode]
    rw [narrow, hunits, hround, ofCode_code]

end Single

end MeshRoom
