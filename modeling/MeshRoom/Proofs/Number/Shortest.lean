import MeshRoom.Number.Single
import MeshRoom.Proofs.Number.Rounding

/-!
# Shortest decimals read back

The search for a short decimal tries grids from coarse to fine and takes the first hit. The finest
grid is hit by the number itself, so that whatever is found reads back as the code it stands for.
-/

namespace MeshRoom

/-! ### Grids -/

lemma roundHalfEven_cases (num den : Nat) :
    roundHalfEven num den = num / den ∨ roundHalfEven num den = num / den + 1 := by
  unfold roundHalfEven
  dsimp only
  split
  · exact .inr rfl
  · exact .inl rfl

lemma test_of_gridHit {test : Nat → Bool} {n place c : Nat} (h : gridHit test n place = some c) :
    test (c * 10 ^ place) = true := by
  unfold gridHit at h
  dsimp only at h
  split at h
  case h_1 => cases h
  case h_2 hlow _ =>
    cases h
    exact hlow
  case h_3 _ hhigh =>
    cases h
    exact hhigh
  case h_4 hlow hhigh =>
    cases h
    rcases roundHalfEven_cases n (Nat.pow 10 place) with heq | heq
    · rw [heq]
      exact hlow
    · rw [heq]
      exact hhigh

/-- What the search finds passes the test, if the number itself does. -/
lemma test_coarsestHit (test : Nat → Bool) {n : Nat} (hn : test n = true) (place : Nat) :
    test ((coarsestHit test n place).1 * 10 ^ (coarsestHit test n place).2) = true := by
  induction place with
  | zero =>
    rw [coarsestHit, Nat.pow_zero, Nat.mul_one]
    exact hn
  | succ place ih =>
    unfold coarsestHit
    split
    case h_1 c hhit => exact test_of_gridHit hhit
    case h_2 => exact ih

namespace Format

variable {f : Format}

/-- The shortest decimal of a finite code reads back as the code. -/
theorem IsProper.ofDecimal_shortest (hf : f.IsProper) {code : Nat} (h : code < f.limit) :
    f.ofDecimal (f.shortest code).digits (f.shortest code).exponent = code := by
  have hscale : 0 < 5 ^ f.unitBits := Nat.pow_pos (by decide)
  have hself : f.round (f.units code * 5 ^ f.unitBits) (5 ^ f.unitBits) = code := by
    have hround := round_mul (f := f) hscale (f.units code) 1
    rwa [Nat.one_mul, round_units h] at hround
  let found := coarsestHit (fun m => f.round m (5 ^ f.unitBits) == code)
    (f.units code * 5 ^ f.unitBits)
    ((Nat.toDigits 10 (f.units code * 5 ^ f.unitBits)).length - 1)
  have hfound : f.round (found.1 * 10 ^ found.2) (5 ^ f.unitBits) = code :=
    beq_iff_eq.1 (test_coarsestHit (fun m => f.round m (5 ^ f.unitBits) == code)
      (beq_iff_eq.2 hself) _)
  have hshortest : f.shortest code = ⟨found.1, (found.2 : Int) - f.unitBits⟩ := rfl
  rw [hshortest]
  refine (hf.ofDecimal_eq_round hscale ?_).trans hfound
  -- a decimal place more takes a factor of ten, and each unit bit one of two
  have hexponents : ((found.2 : Int) - f.unitBits).toNat + f.unitBits
      = found.2 + (-((found.2 : Int) - f.unitBits)).toNat := by omega
  have hten : 2 ^ f.unitBits * 5 ^ f.unitBits = 10 ^ f.unitBits := (Nat.mul_pow 2 5 _).symm
  calc found.1 * 10 ^ ((found.2 : Int) - f.unitBits).toNat * 2 ^ f.unitBits * 5 ^ f.unitBits
      = found.1 * 10 ^ ((found.2 : Int) - f.unitBits).toNat * (2 ^ f.unitBits * 5 ^ f.unitBits) :=
        Nat.mul_assoc _ _ _
    _ = found.1 * 10 ^ (((found.2 : Int) - f.unitBits).toNat + f.unitBits) := by
        rw [hten, Nat.mul_assoc, ← Nat.pow_add]
    _ = found.1 * 10 ^ found.2 * 10 ^ (-((found.2 : Int) - f.unitBits)).toNat := by
        rw [hexponents, Nat.pow_add, Nat.mul_assoc]

end Format

end MeshRoom
