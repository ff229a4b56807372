import PollAtlas.Proofs.Number.Nearest

/-!
# The range of doubles

The largest finite double is `2 ^ 1024 - 2 ^ 971`. Half a step above it, at `2 ^ 1024 - 2 ^ 970`,
a number is rounded to the even neighbour, which is the power of two and out of range. So the
decimals that are turned into a finite double are those below that number.

* `roundUnits_lt_two_pow`: when rounding stays below a power of two.
* `Decimal.isFinite_toDouble`: a decimal is turned into a finite double just when it is in range.
-/

namespace PollAtlas

open scoped Power

/-- Rounding stays below an even number just where the quotient is more than a half below it. -/
theorem roundHalfEven_lt_iff (num : Nat) {den n : Nat} (hden : 0 < den) (hn : n % 2 = 0) :
    roundHalfEven num den < n ↔ 2 * num + den < 2 * (n * den) := by
  have hnum : num / den * den + num % den = num := Nat.div_add_mod' num den
  have hmod : num % den < den := Nat.mod_lt num hden
  rcases Nat.lt_trichotomy (num / den + 1) n with hlt | heq | hgt
  · have hround := roundHalfEven_le num den
    have hscaled := Nat.mul_le_mul_right den (Nat.succ_le_of_lt hlt)
    rw [Nat.succ_eq_add_one, Nat.add_mul, Nat.add_mul] at hscaled
    omega
  · -- the quotient is odd, so a half goes up
    rw [← heq, Nat.add_mul, roundHalfEven]
    split
    · omega
    · omega
  · have hround := le_roundHalfEven num den
    have hscaled := Nat.mul_le_mul_right den (Nat.le_of_lt_succ hgt)
    omega

/-- Rounding does not pass a power of two that the quotient stays below. -/
theorem roundUnits_le_two_pow {num den k : Nat} (h : num / den < 2 ^ k) :
    roundUnits num den ≤ 2 ^ k := by
  have hexcess : (num / den).log2 - 52 ≤ k := by
    by_cases hzero : num / den = 0
    · rw [hzero]
      exact Nat.zero_le k
    · have hlog := (Nat.log2_lt hzero).mpr h
      omega
  rw [roundUnits]
  generalize (num / den).log2 - 52 = excess at hexcess
  have hsplit : 2 ^ (k - excess) * 2 ^ excess = 2 ^ k := by
    rw [← Nat.pow_add, Nat.sub_add_cancel hexcess]
  have hround := roundHalfEven_le num (den * 2 ^ excess)
  have hleading : num / (den * 2 ^ excess) < 2 ^ (k - excess) := by
    rw [← Nat.div_div_eq_div_mul, Nat.div_lt_iff_lt_mul (Nat.two_pow_pos excess), hsplit]
    exact h
  rw [← hsplit]
  exact Nat.mul_le_mul_right _ (by omega)

/-- Rounding stays below a power of two just where the quotient does by more than half of the
last step below it. -/
theorem roundUnits_lt_two_pow (num : Nat) {den k : Nat} (hden : 0 < den) (hk : 53 ≤ k) :
    roundUnits num den < 2 ^ k ↔ 2 * num + den * 2 ^ (k - 53) < 2 * (2 ^ k * den) := by
  have hstep : 2 ^ (53 : Nat) * 2 ^ (k - 53) = 2 ^ k := by
    rw [← Nat.pow_add, Nat.add_sub_cancel' hk]
  have hhalf : 2 ^ (k - 1) * 2 = 2 ^ k := by
    rw [← Nat.pow_succ, Nat.succ_eq_add_one, Nat.sub_add_cancel (by omega)]
  rcases Nat.lt_or_ge (num / den) (2 ^ (k - 1)) with hsmall | hlarge
  · -- half a power below, both sides hold
    have hround := roundUnits_le_two_pow hsmall
    have hnum : num < 2 ^ (k - 1) * den := (Nat.div_lt_iff_lt_mul hden).mp hsmall
    have hlast : den * 2 ^ (k - 53) ≤ 2 ^ (k - 1) * den := by
      rw [Nat.mul_comm]
      exact Nat.mul_le_mul_right den (Nat.pow_le_pow_right Nat.two_pos (by omega))
    have hpos := Nat.two_pow_pos (k - 1)
    rw [← hhalf, Nat.mul_right_comm]
    omega
  rcases Nat.lt_or_ge (num / den) (2 ^ k) with htop | hout
  · -- 53 bits are left, so the power is an even number of steps
    have hlog : (num / den).log2 - 52 = k - 53 := by
      have hne : num / den ≠ 0 := by
        have hpos := Nat.two_pow_pos (k - 1)
        omega
      have hlower : k - 1 ≤ (num / den).log2 := (Nat.le_log2 hne).mpr hlarge
      have hupper : (num / den).log2 < k := (Nat.log2_lt hne).mpr htop
      omega
    have heven : 2 ^ (53 : Nat) % 2 = 0 := rfl
    have hround := roundHalfEven_lt_iff num (Nat.mul_pos hden (Nat.two_pow_pos (k - 53))) heven
    rw [roundUnits, hlog, ← hstep, Nat.mul_lt_mul_right (Nat.two_pow_pos (k - 53)), hround,
      Nat.mul_assoc, Nat.mul_comm den]
  · have hround := two_pow_le_roundUnits hout
    have hnum : 2 ^ k * den ≤ num := (Nat.le_div_iff_mul_le hden).mp hout
    omega

namespace Decimal

/-- The number from which on decimals are out of range. -/
def overflow : Nat := 2 ^ rangeBits - 2 ^ (rangeBits - 54)

/-- The number that the decimal stands for is below `2 ^ 1024 - 2 ^ 970`. -/
def InRange (d : Decimal) : Prop :=
  match d.exponent with
  | .ofNat e => d.digits * 10 ^ e < overflow
  | .negSucc e => d.digits < overflow * 10 ^ (e + 1)

instance (d : Decimal) : Decidable d.InRange :=
  match d with
  | ⟨m, .ofNat e⟩ => inferInstanceAs (Decidable (m * 10 ^ e < overflow))
  | ⟨m, .negSucc e⟩ => inferInstanceAs (Decidable (m < overflow * 10 ^ (e + 1)))

/-- Half of the last step below the limit, in units, is what is missing at the first number out
of range. -/
theorem overflow_add_half :
    overflow * Double.unitsPerOne * 2 + 2 ^ (rangeBits + unitBits - 53) = magnitudeLimit * 2 := by
  have hbits : rangeBits + unitBits - 53 = rangeBits - 54 + unitBits + 1 := rfl
  have hle : 2 ^ (rangeBits - 54) ≤ 2 ^ rangeBits :=
    Nat.pow_le_pow_right Nat.two_pos (Nat.sub_le rangeBits 54)
  rw [hbits, Nat.pow_succ, Nat.pow_add, ← Nat.add_mul, Double.unitsPerOne, ← Nat.add_mul, overflow,
    Nat.sub_add_cancel hle, magnitudeLimit, Nat.pow_add]

/-- A quotient stays in range, once rounded, just where it is below the first number out of
range. -/
theorem roundUnits_lt_limit (num : Nat) {den : Nat} (hden : 0 < den) :
    roundUnits (num * Double.unitsPerOne) den < magnitudeLimit ↔ num < overflow * den := by
  have hbits : 53 ≤ rangeBits + unitBits := by decide
  have hlimit : 2 * (magnitudeLimit * den) =
      2 * (overflow * den * Double.unitsPerOne) + den * 2 ^ (rangeBits + unitBits - 53) := by
    rw [← Nat.mul_assoc, Nat.mul_comm 2, ← overflow_add_half, Nat.add_mul, Nat.mul_comm den,
      Nat.mul_right_comm overflow den, Nat.mul_comm 2, Nat.mul_right_comm _ den]
  have hround := roundUnits_lt_two_pow (num * Double.unitsPerOne) hden hbits
  rw [← magnitudeLimit, hlimit] at hround
  have hscale := Nat.mul_lt_mul_right (b := num) (c := overflow * den) Double.unitsPerOne_pos
  rw [hround, ← hscale]
  omega

theorem nearestUnits_lt_limit (d : Decimal) : d.nearestUnits < magnitudeLimit ↔ d.InRange := by
  obtain ⟨m, e⟩ := d
  cases e with
  | ofNat e =>
    rw [nearestUnits, roundUnits_lt_limit _ Nat.one_pos, Nat.mul_one, InRange]
  | negSucc e => exact roundUnits_lt_limit m (Nat.pow_pos (by decide))

/-- A decimal that rounds to a magnitude out of range is infinite. -/
theorem toDouble_of_limit_le {d : Decimal} (h : magnitudeLimit ≤ d.nearestUnits)
    (negative : Bool) : d.toDouble negative = .infinity negative := by
  obtain ⟨m, e⟩ := d
  have hne : nearestUnits ⟨m, e⟩ ≠ 0 := Nat.ne_of_gt (Nat.lt_of_lt_of_le magnitudeLimit_pos h)
  have hm : m ≠ 0 := fun hm => hne (nearestUnits_of_digits_eq_zero hm)
  cases e with
  | ofNat e =>
    simp only [nearestUnits] at h
    simp only [toDouble, hm, if_false, Double.ofRatio, Double.ofUnits, dif_neg (Nat.not_lt.mpr h),
      ite_self]
  | negSucc e =>
    have hlarge : ¬ m.log2 + 1 + (unitBits + 2) ≤ 3 * (e + 1) :=
      fun hsmall => hne (nearestUnits_of_small hsmall)
    simp only [nearestUnits] at h
    simp only [toDouble, hm, if_false, hlarge, Double.ofRatio, Double.ofUnits,
      dif_neg (Nat.not_lt.mpr h)]

theorem fits53_nearestUnits (d : Decimal) : Fits53 d.nearestUnits := by
  rw [nearestUnits]
  split
  · exact roundUnits_dvd _ _
  · exact roundUnits_dvd _ _

/-- A decimal is turned into a finite double just when it is in range. -/
theorem isFinite_toDouble (d : Decimal) (negative : Bool) :
    (d.toDouble negative).isFinite = true ↔ d.InRange := by
  rw [← nearestUnits_lt_limit]
  rcases Nat.lt_or_ge d.nearestUnits magnitudeLimit with hlt | hle
  · rw [toDouble_of_nearestUnits ⟨hlt, fits53_nearestUnits d⟩ rfl]
    exact iff_of_true rfl hlt
  · rw [toDouble_of_limit_le hle]
    exact iff_of_false Bool.false_ne_true (Nat.not_lt.mpr hle)

end Decimal

end PollAtlas
