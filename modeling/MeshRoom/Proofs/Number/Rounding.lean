import MeshRoom.Number.Format
import Mathlib.Algebra.Group.Nat.Defs
import Mathlib.Tactic.Lemma
import Mathlib.Tactic.Ring

/-!
# Rounding to a format

Rounding depends on a ratio alone, not on how it is written, and leaves alone what the format holds
exactly: the units of a code round to the code, and a whole number of units that has few enough
significant bits is the units of the code it rounds to.

The code of a decimal is that of the ratio which the decimal stands for, whatever its digits and its
exponent are: far from the finite codes, where no ratio is formed, rounding it would not make a
difference.
-/

namespace MeshRoom

/-! ### Nearest whole numbers -/

lemma roundHalfEven_mul {k : Nat} (hk : 0 < k) (num den : Nat) :
    roundHalfEven (num * k) (den * k) = roundHalfEven num den := by
  have hmod : num * k % (den * k) = num % den * k := Nat.mul_mod_mul_right k num den
  have hlt : den * k < 2 * (num % den * k) ↔ den < 2 * (num % den) := by
    rw [← Nat.mul_assoc]
    exact Nat.mul_lt_mul_right hk
  have heq : 2 * (num % den * k) = den * k ↔ 2 * (num % den) = den := by
    rw [← Nat.mul_assoc]
    exact Nat.mul_left_inj (Nat.ne_of_gt hk)
  simp only [roundHalfEven, Nat.mul_div_mul_right _ _ hk, hmod, hlt, heq]

lemma roundHalfEven_exact {den : Nat} (hden : 0 < den) (q : Nat) :
    roundHalfEven (q * den) den = q := by
  simp [roundHalfEven, Nat.mul_div_left _ hden, Nat.ne_of_lt hden]

lemma roundHalfEven_one (n : Nat) : roundHalfEven n 1 = n := by
  have h := roundHalfEven_exact Nat.one_pos n
  rwa [Nat.mul_one] at h

/-- What is less than a half is nearest to zero. -/
lemma roundHalfEven_of_lt {num den : Nat} (h : 2 * num < den) : roundHalfEven num den = 0 := by
  have hlt : num < den := by omega
  simp [roundHalfEven, Nat.div_eq_of_lt hlt, Nat.mod_eq_of_lt hlt]
  omega

namespace Format

variable {f : Format}

lemma binade_eq (f : Format) : f.binade = 2 ^ f.fractionBits := by
  rw [binade, Nat.one_shiftLeft]

lemma binade_pos (f : Format) : 0 < f.binade := by
  rw [binade_eq]
  exact Nat.two_pow_pos _

/-! ### Ratios -/

lemma round_mul {k : Nat} (hk : 0 < k) (num den : Nat) :
    f.round (num * k) (den * k) = f.round num den := by
  have hshift : ∀ s, (den * k) <<< s = den <<< s * k := by
    intro s
    rw [Nat.shiftLeft_eq, Nat.shiftLeft_eq, Nat.mul_right_comm]
  simp only [round, Nat.mul_div_mul_right _ _ hk, hshift, roundHalfEven_mul hk]

/-- Rounding depends on the ratio alone. -/
lemma round_congr {num den num' den' : Nat} (hden : 0 < den) (hden' : 0 < den')
    (h : num * den' = num' * den) : f.round num den = f.round num' den' := by
  rw [← round_mul hden' num den, ← round_mul hden num' den', h, Nat.mul_comm den den']

/-! ### Magnitudes of few bits -/

lemma excess_of_lt {whole : Nat} (h : whole < 2 * f.binade) : f.excess whole = 0 := if_pos h

/-- A whole part that has more bits than the format holds, by how many. -/
lemma excess_of_log2 {whole drop : Nat} (h : 0 < drop)
    (hlow : 2 ^ (f.fractionBits + drop) ≤ whole) (hhigh : whole < 2 ^ (f.fractionBits + drop + 1)) :
    f.excess whole = drop := by
  have hpos : 0 < 2 ^ (f.fractionBits + drop) := Nat.two_pow_pos _
  have hlog : whole.log2 = f.fractionBits + drop :=
    (Nat.log2_eq_iff (by omega)).2 ⟨hlow, hhigh⟩
  have hbig : ¬ whole < 2 * f.binade := by
    have hpow : 2 ^ (f.fractionBits + 1) ≤ 2 ^ (f.fractionBits + drop) :=
      Nat.pow_le_pow_right (by decide) (by omega)
    rw [Nat.pow_succ] at hpow
    rw [binade_eq]
    omega
  rw [excess, if_neg hbig, hlog, Nat.add_sub_cancel_left]

/-- A ratio below a half rounds to nothing. -/
lemma round_of_lt_half {num den : Nat} (h : 2 * num < den) : f.round num den = 0 := by
  have hzero : num / den = 0 := Nat.div_eq_of_lt (by omega)
  have hexcess : f.excess (num / den) = 0 := by
    rw [hzero]
    exact excess_of_lt (Nat.mul_pos (by decide) f.binade_pos)
  simp [round, hexcess, roundHalfEven_of_lt h]

/-- A whole number of units that has its bits rounded away exactly. -/
lemma round_shifted {m drop : Nat} (hdrop : 0 < drop) (hlow : f.binade ≤ m)
    (hhigh : m < 2 * f.binade) :
    f.round (m * 2 ^ drop) 1 = min f.limit (drop * f.binade + m) := by
  rw [binade_eq] at hlow hhigh
  have hpos : 0 < 2 ^ drop := Nat.two_pow_pos _
  have hexcess : f.excess (m * 2 ^ drop / 1) = drop := by
    rw [Nat.div_one]
    refine excess_of_log2 hdrop ?_ ?_
    · rw [Nat.pow_add]
      exact Nat.mul_le_mul_right _ hlow
    · rw [Nat.pow_succ, Nat.pow_add, Nat.mul_right_comm, Nat.mul_comm (2 ^ f.fractionBits)]
      exact Nat.mul_lt_mul_of_pos_right hhigh hpos
  rw [round, hexcess, Nat.one_shiftLeft, roundHalfEven_exact hpos]

lemma round_whole {n : Nat} (h : n < 2 * f.binade) : f.round n 1 = min f.limit n := by
  have hexcess : f.excess (n / 1) = 0 := by
    rw [Nat.div_one]
    exact excess_of_lt h
  rw [round, hexcess, Nat.zero_mul, Nat.zero_add, Nat.shiftLeft_zero, roundHalfEven_one]

/-! ### Codes -/

/-- The units of a code above the first binade are its significant bits, shifted. -/
lemma units_of_le {drop m : Nat} (hlow : f.binade ≤ m) (hhigh : m < 2 * f.binade) :
    f.units (drop * f.binade + m) = m * 2 ^ drop := by
  have hcode : drop * f.binade + m = m - f.binade + f.binade * (drop + 1) := by
    rw [Nat.mul_succ, Nat.mul_comm]
    omega
  have hrest : m - f.binade < f.binade := by omega
  have hmod : (m - f.binade + f.binade * (drop + 1)) % f.binade = m - f.binade := by
    rw [Nat.add_mul_mod_self_left, Nat.mod_eq_of_lt hrest]
  have hdiv : (m - f.binade + f.binade * (drop + 1)) / f.binade = drop + 1 := by
    rw [Nat.add_mul_div_left _ _ f.binade_pos, Nat.div_eq_of_lt hrest, Nat.zero_add]
  have hbig : ¬ drop * f.binade + m < f.binade := by omega
  rw [units, if_neg hbig, hcode, hmod, hdiv, Nat.shiftLeft_eq, Nat.add_sub_cancel,
    Nat.add_sub_cancel' hlow]

/-- Every code above the first binade has significant bits. -/
lemma exists_of_le {code : Nat} (h : f.binade ≤ code) :
    ∃ drop m, code = drop * f.binade + m ∧ f.binade ≤ m ∧ m < 2 * f.binade := by
  have hpos := f.binade_pos
  have hdivPos : 0 < code / f.binade := Nat.div_pos h hpos
  have hsplit := Nat.div_add_mod' code f.binade
  refine ⟨code / f.binade - 1, f.binade + code % f.binade, ?_, by omega, ?_⟩
  · rw [Nat.sub_mul, Nat.one_mul]
    have := Nat.le_mul_of_pos_left f.binade hdivPos
    omega
  · have := Nat.mod_lt code hpos
    omega

/-- The units of a finite code round to the code. -/
theorem round_units {code : Nat} (h : code < f.limit) : f.round (f.units code) 1 = code := by
  rcases Nat.lt_or_ge code f.binade with hsmall | hlarge
  · rw [units, if_pos hsmall, round_whole (by omega)]
    omega
  obtain ⟨drop, m, rfl, hlow, hhigh⟩ := exists_of_le hlarge
  rw [units_of_le hlow hhigh]
  rcases Nat.eq_zero_or_pos drop with rfl | hdrop
  · rw [Nat.pow_zero, Nat.mul_one, round_whole hhigh]
    omega
  · rw [round_shifted hdrop hlow hhigh]
    omega

/-- A whole number with few enough significant bits can be written with just so many. -/
lemma exists_of_bits {m shift : Nat} (hm : m < 2 * f.binade) :
    m * 2 ^ shift < 2 * f.binade ∨
      ∃ drop c, 0 < drop ∧ m * 2 ^ shift = c * 2 ^ drop ∧ f.binade ≤ c ∧ c < 2 * f.binade := by
  induction shift generalizing m with
  | zero =>
    rw [Nat.pow_zero, Nat.mul_one]
    exact .inl hm
  | succ shift ih =>
    rcases Nat.lt_or_ge m f.binade with hsmall | hlarge
    · have hdouble : m * 2 ^ (shift + 1) = 2 * m * 2 ^ shift := by
        rw [Nat.pow_succ', ← Nat.mul_assoc, Nat.mul_comm m 2]
      rw [hdouble]
      exact ih (by omega)
    · exact .inr ⟨shift + 1, m, Nat.succ_pos _, rfl, hlarge, hm⟩

/-- A whole number of units with few enough significant bits is the units of its code, if that is
finite. -/
theorem units_round {m shift : Nat} (hm : m < 2 * f.binade)
    (h : f.round (m * 2 ^ shift) 1 < f.limit) :
    f.units (f.round (m * 2 ^ shift) 1) = m * 2 ^ shift := by
  rcases exists_of_bits hm with hsmall | ⟨drop, c, hdrop, heq, hlow, hhigh⟩
  · generalize m * 2 ^ shift = n at hsmall h ⊢
    rw [round_whole hsmall] at h ⊢
    have hround : min f.limit n = n := by omega
    rw [hround]
    rcases Nat.lt_or_ge n f.binade with hn | hn
    · rw [units, if_pos hn]
    · have hunits : f.units (0 * f.binade + n) = n * 2 ^ 0 := units_of_le hn hsmall
      rwa [Nat.zero_mul, Nat.zero_add, Nat.pow_zero, Nat.mul_one] at hunits
  · rw [heq, round_shifted hdrop hlow hhigh] at h ⊢
    have hround : min f.limit (drop * f.binade + c) = drop * f.binade + c := by omega
    rw [hround, units_of_le hlow hhigh]

/-! ### Far from the finite codes -/

/-- A format with bits for both of its parts. -/
structure IsProper (f : Format) : Prop where
  fraction : 0 < f.fractionBits
  exponent : 0 < f.exponentBits

lemma isProper_double : double.IsProper := ⟨by decide, by decide⟩

/-- The finite codes end well before the square of the unit's inverse. -/
lemma IsProper.fractionBits_add_le (hf : f.IsProper) :
    f.fractionBits + (1 <<< f.exponentBits - 1) ≤ f.unitBits + f.unitBits + 2 := by
  obtain ⟨p, e⟩ := f
  obtain ⟨hfraction, hexponent⟩ := hf
  cases e with
  | zero => cases hexponent
  | succ e =>
    have hpow : 1 <<< (e + 1) = 2 * 1 <<< e := by
      rw [Nat.one_shiftLeft, Nat.one_shiftLeft, Nat.pow_succ']
    have hone : 0 < 1 <<< e := by
      rw [Nat.one_shiftLeft]
      exact Nat.two_pow_pos e
    simp only [unitBits, Nat.add_sub_cancel, hpow] at hfraction ⊢
    omega

/-- A ratio with too many bits before the point rounds to infinity. -/
lemma IsProper.round_of_le (hf : f.IsProper) {num den : Nat}
    (h : 2 ^ (f.unitBits + f.unitBits + 2) ≤ num / den) : f.round num den = f.limit := by
  have hbits := hf.fractionBits_add_le
  have hpos : 0 < 2 ^ (f.unitBits + f.unitBits + 2) := Nat.two_pow_pos _
  have hlog : f.unitBits + f.unitBits + 2 ≤ (num / den).log2 := (Nat.le_log2 (by omega)).2 h
  have hone : 2 ≤ 1 <<< f.exponentBits := by
    rw [Nat.one_shiftLeft]
    exact Nat.pow_le_pow_right (by decide : 0 < 2) hf.exponent
  have hbig : ¬ num / den < 2 * f.binade := by
    have hpow : 2 ^ (f.fractionBits + 1) ≤ 2 ^ (f.unitBits + f.unitBits + 2) :=
      Nat.pow_le_pow_right (by decide) (by omega)
    rw [Nat.pow_succ, ← binade_eq] at hpow
    omega
  have hdrop : 1 <<< f.exponentBits - 1 ≤ f.excess (num / den) := by
    rw [excess, if_neg hbig]
    omega
  have hlimit : f.limit ≤ f.excess (num / den) * f.binade := Nat.mul_le_mul_right _ hdrop
  exact Nat.min_eq_left (Nat.le_trans hlimit (Nat.le_add_right _ _))

/-! ### Decimals -/

/-- A decimal whose exponent is far below zero rounds to nothing. -/
lemma round_of_low {digits length e : Nat} (hdigits : digits < 10 ^ length)
    (he : f.unitBits + length < e) : f.round (digits * 2 ^ f.unitBits) (10 ^ e) = 0 := by
  refine round_of_lt_half ?_
  have hbound : digits * 2 ^ f.unitBits < 10 ^ length * 2 ^ f.unitBits :=
    Nat.mul_lt_mul_of_pos_right hdigits (Nat.two_pow_pos _)
  calc 2 * (digits * 2 ^ f.unitBits)
      < 2 * (10 ^ length * 2 ^ f.unitBits) := by omega
    _ = 10 ^ length * 2 ^ (f.unitBits + 1) := by ring
    _ ≤ 10 ^ length * 10 ^ (f.unitBits + 1) :=
      Nat.mul_le_mul_left _ (Nat.pow_le_pow_left (by decide) _)
    _ = 10 ^ (length + (f.unitBits + 1)) := (Nat.pow_add _ _ _).symm
    _ ≤ 10 ^ e := Nat.pow_le_pow_right (by decide) (by omega)

/-- A decimal whose exponent is far above zero rounds to infinity. -/
lemma IsProper.round_of_high (hf : f.IsProper) {digits e : Nat} (hdigits : 0 < digits)
    (he : f.unitBits + 1 < e) : f.round (digits * 10 ^ e * 2 ^ f.unitBits) 1 = f.limit := by
  refine hf.round_of_le ?_
  rw [Nat.div_one]
  calc 2 ^ (f.unitBits + f.unitBits + 2)
      = 2 ^ (f.unitBits + 2) * 2 ^ f.unitBits := by ring
    _ ≤ 10 ^ (f.unitBits + 2) * 2 ^ f.unitBits :=
        Nat.mul_le_mul_right _ (Nat.pow_le_pow_left (by decide) _)
    _ ≤ 10 ^ e * 2 ^ f.unitBits :=
        Nat.mul_le_mul_right _ (Nat.pow_le_pow_right (by decide) he)
    _ ≤ digits * 10 ^ e * 2 ^ f.unitBits :=
        Nat.mul_le_mul_right _ (Nat.le_mul_of_pos_left _ hdigits)

/-- The code of a decimal is that of the ratio it stands for. -/
theorem IsProper.ofDecimal_eq_round (hf : f.IsProper) {digits num den : Nat} {exponent : Int}
    (hden : 0 < den)
    (h : digits * 10 ^ exponent.toNat * 2 ^ f.unitBits * den = num * 10 ^ (-exponent).toNat) :
    f.ofDecimal digits exponent = f.round num den := by
  rw [← round_congr (Nat.pow_pos (by decide)) hden h]
  have hlength : digits < 10 ^ (Nat.toDigits 10 digits).length :=
    (Nat.length_toDigits_le_iff (by decide) Nat.length_toDigits_pos).1 (Nat.le_refl _)
  have hnonempty := Nat.length_toDigits_pos (b := 10) (n := digits)
  generalize hlen : (Nat.toDigits 10 digits).length = length at hlength hnonempty
  unfold ofDecimal
  rw [hlen]
  split
  case isTrue hzero =>
    have hpow : 0 < 10 ^ (-exponent).toNat := Nat.pow_pos (by decide)
    subst hzero
    exact (round_of_lt_half (by simp only [Nat.zero_mul, Nat.mul_zero]; exact hpow)).symm
  case isFalse hdigits =>
    dsimp only
    split
    case isTrue hlow =>
      have hnat : exponent.toNat = 0 := by omega
      rw [hnat, Nat.pow_zero, Nat.mul_one]
      exact (round_of_low hlength (by omega)).symm
    case isFalse =>
      split
      case isTrue hhigh =>
        have hnat : (-exponent).toNat = 0 := by omega
        rw [hnat, Nat.pow_zero]
        exact (hf.round_of_high (Nat.pos_of_ne_zero hdigits) (by omega)).symm
      case isFalse =>
        cases exponent with
        | ofNat e =>
          have hnat : (-(Int.ofNat e)).toNat = 0 := Int.toNat_neg_natCast e
          rw [hnat, Nat.pow_zero]
          dsimp only
          rw [Nat.shiftLeft_eq]
          rfl
        | negSucc e =>
          have hnat : (Int.negSucc e).toNat = 0 := rfl
          rw [hnat, Nat.pow_zero, Nat.mul_one, Nat.shiftLeft_eq]
          rfl

/-- A decimal may be written with more zeros. -/
lemma IsProper.ofDecimal_zeros (hf : f.IsProper) (digits zeros : Nat) (exponent : Int) :
    f.ofDecimal (digits * 10 ^ zeros) (exponent - zeros) = f.ofDecimal digits exponent := by
  have hsame : f.ofDecimal digits exponent = f.round
      (digits * 10 ^ exponent.toNat * 2 ^ f.unitBits) (10 ^ (-exponent).toNat) :=
    hf.ofDecimal_eq_round (Nat.pow_pos (by decide)) rfl
  rw [hsame]
  refine hf.ofDecimal_eq_round (Nat.pow_pos (by decide)) ?_
  have hexponents : zeros + (exponent - zeros).toNat + (-exponent).toNat
      = exponent.toNat + (-(exponent - zeros)).toNat := by omega
  calc digits * 10 ^ zeros * 10 ^ (exponent - zeros).toNat * 2 ^ f.unitBits
        * 10 ^ (-exponent).toNat
      = digits * 2 ^ f.unitBits
        * 10 ^ (zeros + (exponent - zeros).toNat + (-exponent).toNat) := by ring
    _ = digits * 10 ^ exponent.toNat * 2 ^ f.unitBits * 10 ^ (-(exponent - zeros)).toNat := by
        rw [hexponents]
        ring

end Format

end MeshRoom
