import Mathlib.Data.Nat.Dist
import PollAtlas.Proofs.Number.Range
import PollAtlas.Proofs.Number.Whole

/-!
# Significant bits

The significant bits of a whole number reach from the first one to the last one. Up to 53 of them
fit in a double. A number with more becomes the nearest one that has no more: those of at least its
length are all multiples of one power of two, to which it is rounded, and a shorter one is no nearer
than the power of two that begins its length.

* `IsShort`, `fits53_iff`: numbers of at most 53 significant bits.
* `dist_roundUnits_le`: a whole number is rounded to the nearest of these.
* `Double.ofInt_eq_finite`, `Decimal.toDouble_whole`: the doubles of whole numbers.
-/

namespace PollAtlas

open scoped Power

/-- The number has at most 53 significant bits. -/
def IsShort (n : Nat) : Prop := ∃ m e, m < 2 ^ (53 : Nat) ∧ n = m * 2 ^ e

theorem fits53_iff {n : Nat} : Fits53 n ↔ IsShort n := by
  constructor
  · rintro ⟨m, hm⟩
    refine ⟨m, n.log2 - 52, ?_, by rw [Nat.mul_comm]; exact hm⟩
    have hlog : n < 2 ^ (n.log2 + 1) := Nat.lt_log2_self
    have hpow : 2 ^ (n.log2 + 1) ≤ 2 ^ (n.log2 - 52) * 2 ^ (53 : Nat) := by
      rw [← Nat.pow_add]
      exact Nat.pow_le_pow_right Nat.two_pos (by omega)
    have hlt : 2 ^ (n.log2 - 52) * m < 2 ^ (n.log2 - 52) * 2 ^ (53 : Nat) := by
      rw [← hm]
      exact Nat.lt_of_lt_of_le hlog hpow
    exact Nat.lt_of_mul_lt_mul_left hlt
  · rintro ⟨m, e, hm, rfl⟩
    exact fits53_mul_pow (Nat.le_of_lt hm) e

/-! ## The nearest number -/

/-- No multiple is nearer than the one that is rounded to. -/
theorem dist_roundHalfEven_le (n : Nat) {step : Nat} (hstep : 0 < step) (k : Nat) :
    Nat.dist n (roundHalfEven n step * step) ≤ Nat.dist n (k * step) := by
  have hn : n / step * step + n % step = n := Nat.div_add_mod' n step
  have hmod : n % step < step := Nat.mod_lt n hstep
  have hnext : (n / step + 1) * step = n / step * step + step := Nat.succ_mul _ _
  have hside : k * step ≤ n / step * step ∨ (n / step + 1) * step ≤ k * step := by
    rcases Nat.lt_or_ge (n / step) k with hlt | hle
    · exact Or.inr (Nat.mul_le_mul_right step hlt)
    · exact Or.inl (Nat.mul_le_mul_right step hle)
  simp only [roundHalfEven, Nat.dist]
  split
  · omega
  · omega

/-- A whole number is rounded to the nearest one of 53 significant bits. -/
theorem dist_roundUnits_le (n : Nat) {k : Nat} (hk : IsShort k) :
    Nat.dist n (roundUnits n 1) ≤ Nat.dist n k := by
  have hround : ∀ j, Nat.dist n (roundUnits n 1) ≤ Nat.dist n (j * 2 ^ (n.log2 - 52)) := by
    intro j
    rw [roundUnits, Nat.div_one, Nat.one_mul]
    exact dist_roundHalfEven_le n (Nat.two_pow_pos _) j
  by_cases hdvd : 2 ^ (n.log2 - 52) ∣ k
  · rw [← Nat.div_mul_cancel hdvd]
    exact hround _
  · -- the number is shorter than `n`, so the power of two between them is no farther
    have hlog : k.log2 < n.log2 := by
      by_contra hle
      exact hdvd (Nat.dvd_trans (Nat.pow_dvd_pow 2 (by omega)) (fits53_iff.mpr hk))
    have hn : n ≠ 0 := by
      rintro rfl
      exact Nat.not_lt_zero _ hlog
    have hpower := hround (2 ^ (n.log2 - (n.log2 - 52)))
    rw [← Nat.pow_add, Nat.add_comm, Nat.add_sub_cancel' (Nat.sub_le _ _)] at hpower
    have hbelow : k < 2 ^ n.log2 :=
      Nat.lt_of_lt_of_le Nat.lt_log2_self (Nat.pow_le_pow_right Nat.two_pos hlog)
    have habove : 2 ^ n.log2 ≤ n := Nat.log2_self_le hn
    simp only [Nat.dist] at hpower ⊢
    omega

/-! ## As doubles -/

theorem log2_mul_two_pow {n : Nat} (hn : n ≠ 0) (e : Nat) :
    (n * 2 ^ e).log2 = n.log2 + e := by
  have hne : n * 2 ^ e ≠ 0 := Nat.mul_ne_zero hn (Nat.ne_of_gt (Nat.two_pow_pos e))
  refine (Nat.log2_eq_iff hne).mpr ⟨?_, ?_⟩
  · rw [Nat.pow_add]
    exact Nat.mul_le_mul_right _ (Nat.log2_self_le hn)
  · rw [Nat.add_right_comm, Nat.pow_add]
    exact Nat.mul_lt_mul_of_pos_right Nat.lt_log2_self (Nat.two_pow_pos e)

/-- A whole number is rounded in units as it is without them. -/
theorem roundUnits_mul_two_pow (n e : Nat) : roundUnits (n * 2 ^ e) 1 = roundUnits n 1 * 2 ^ e := by
  rcases Nat.lt_or_ge n (2 ^ (53 : Nat)) with hsmall | hlarge
  · have hn : Fits53 n := fits53_iff.mpr ⟨n, 0, hsmall, (Nat.mul_one n).symm⟩
    have hscaled : Fits53 (n * 2 ^ e) := fits53_iff.mpr ⟨n, e, hsmall, rfl⟩
    have hround := roundUnits_of_fits53 hn Nat.one_pos
    have hround' := roundUnits_of_fits53 hscaled Nat.one_pos
    rw [Nat.mul_one] at hround hround'
    rw [hround, hround']
  · have hne : n ≠ 0 := by
      rintro rfl
      exact absurd hlarge (by decide)
    have hlog : 53 ≤ n.log2 := (Nat.le_log2 hne).mpr hlarge
    have hexcess : n.log2 + e - 52 = n.log2 - 52 + e := by omega
    have hstep := roundHalfEven_mul_mul n (2 ^ (n.log2 - 52)) (Nat.two_pow_pos e)
    rw [← Nat.pow_add] at hstep
    simp only [roundUnits, Nat.div_one, Nat.one_mul, log2_mul_two_pow hne, hexcess, hstep]
    rw [Nat.pow_add, Nat.mul_assoc]

/-- A whole number of 64 bits becomes a finite double. -/
theorem representable_roundUnits {n : Nat} (h : n < 2 ^ (64 : Nat)) :
    Representable (roundUnits n 1 * Double.unitsPerOne) := by
  have hround : roundUnits n 1 ≤ 2 ^ (64 : Nat) := roundUnits_le_two_pow (by rwa [Nat.div_one])
  have hrange : roundUnits n 1 < 2 ^ rangeBits :=
    Nat.lt_of_le_of_lt hround (Nat.pow_lt_pow_right (by decide) (by decide))
  refine ⟨Double.mul_unitsPerOne_lt hrange, ?_⟩
  rw [Double.unitsPerOne, ← roundUnits_mul_two_pow]
  exact roundUnits_dvd _ _

theorem Double.ofInt_eq_finite {n : Nat} (h : Representable (roundUnits n 1 * unitsPerOne)) :
    ofInt n = finite false (roundUnits n 1 * unitsPerOne) h := by
  have hsign : decide ((n : Int) < 0) = false := decide_eq_false (by omega)
  rw [ofInt, hsign, Int.natAbs_natCast, ofRatio]
  exact Decimal.ofUnits_of_roundUnits h (roundUnits_mul_two_pow n unitBits) false

/-- Digits alone are read as the double of their number. -/
theorem Decimal.toDouble_whole {n : Nat} (h : Representable (roundUnits n 1 * Double.unitsPerOne)) :
    toDouble false ⟨n, 0⟩ = .finite false (roundUnits n 1 * Double.unitsPerOne) h := by
  refine toDouble_of_nearestUnits h ?_ false
  have hunits : nearestUnits ⟨n, 0⟩ = roundUnits (n * 10 ^ 0 * Double.unitsPerOne) 1 := rfl
  rw [hunits, Nat.pow_zero, Nat.mul_one]
  exact roundUnits_mul_two_pow n unitBits

end PollAtlas
