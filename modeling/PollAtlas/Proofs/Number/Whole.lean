import PollAtlas.Number.Double

/-!
# Whole numbers as doubles

A whole number up to `2 ^ 53` is a double, and from there on a double is a whole number. Hence
the whole number nearest to a double is a double again, at whatever size (`fits53_nearest`).

* `nearest`: the whole number nearest to a magnitude.
* `representable_roundToNat`: what a double is rounded to below a limit is a double.
* `nearest_mul`, `ofInt_of_representable`: a whole number that is a double is neither moved by
  rounding nor by turning it into one.
-/

namespace PollAtlas

open scoped Power

namespace Double

/-- The whole number nearest to a magnitude, a half going up. -/
def nearest (units : Nat) : Nat := (2 * units + unitsPerOne) / (2 * unitsPerOne)

theorem nearest_mul (n : Nat) : nearest (n * unitsPerOne) = n := by
  have hpos := unitsPerOne_pos
  rw [nearest]
  generalize unitsPerOne = unit at hpos
  have hsum : 2 * (n * unit) + unit = unit + 2 * unit * n := by
    rw [Nat.mul_comm n unit, ← Nat.mul_assoc, Nat.add_comm]
  rw [hsum, Nat.add_mul_div_left _ _ (Nat.mul_pos Nat.two_pos hpos),
    Nat.div_eq_of_lt (by omega), Nat.zero_add]

theorem le_of_lt_nearest {n units : Nat} (h : n < nearest units) : n * unitsPerOne ≤ units := by
  have hpos := unitsPerOne_pos
  rw [nearest] at h
  generalize unitsPerOne = unit at h hpos
  have hmul : (n + 1) * (2 * unit) ≤ 2 * units + unit :=
    (Nat.le_div_iff_mul_le (Nat.mul_pos Nat.two_pos hpos)).mp h
  rw [Nat.add_mul, Nat.mul_left_comm] at hmul
  omega

theorem two_pow_dvd {n e : Nat} (hfits : Fits53 n) (hlarge : 2 ^ (53 : Nat) * 2 ^ e ≤ n) :
    2 ^ e ∣ n := by
  have hn : n ≠ 0 := by
    have hpos := Nat.mul_pos (Nat.two_pow_pos 53) (Nat.two_pow_pos e)
    omega
  have hlog : 53 + e ≤ n.log2 := by
    rw [Nat.le_log2 hn, Nat.pow_add]
    exact hlarge
  exact Nat.dvd_trans (Nat.pow_dvd_pow 2 (by omega)) hfits

/-- The whole number nearest to a double has at most 53 significant bits. -/
theorem fits53_nearest {units : Nat} (hfits : Fits53 units) :
    Fits53 (nearest units * unitsPerOne) := by
  by_cases hsmall : nearest units ≤ 2 ^ (53 : Nat)
  · rw [unitsPerOne]
    exact fits53_mul_pow hsmall unitBits
  · have hlarge := le_of_lt_nearest (Nat.lt_of_not_le hsmall)
    -- a double of this size is whole already
    have hdvd : unitsPerOne ∣ units := by
      rw [unitsPerOne] at hlarge ⊢
      exact two_pow_dvd hfits hlarge
    rw [← Nat.div_mul_cancel hdvd, nearest_mul, Nat.div_mul_cancel hdvd]
    exact hfits

/-! ## As doubles -/

theorem mul_two_pow_lt (r e : Nat) {n : Nat} (h : n < 2 ^ r) : n * 2 ^ e < 2 ^ (r + e) := by
  rw [Nat.pow_add]
  exact Nat.mul_lt_mul_of_pos_right h (Nat.two_pow_pos e)

/-- A whole number below `2 ^ 1024` is in the range of doubles. -/
theorem mul_unitsPerOne_lt {n : Nat} (h : n < 2 ^ rangeBits) :
    n * unitsPerOne < magnitudeLimit := by
  rw [unitsPerOne, magnitudeLimit]
  exact mul_two_pow_lt rangeBits unitBits h

theorem ofInt_of_representable {n : Nat} (h : Representable (n * unitsPerOne)) :
    ofInt n = finite false (n * unitsPerOne) h := by
  have hsign : decide ((n : Int) < 0) = false := decide_eq_false (by omega)
  have hexact := ofUnits_of_representable false h Nat.one_pos
  rw [Nat.mul_one] at hexact
  rw [ofInt, hsign, Int.natAbs_natCast, ofRatio]
  exact hexact

/-! ## Rounding to whole numbers -/

theorem roundToNat_finite (limit : Nat) {units : Nat} (h : Representable units) :
    (finite false units h).roundToNat limit = Nat.min limit (nearest units) := by
  simp only [roundToNat, nearest, Bool.false_eq_true, if_false]

theorem roundToNat_le (limit : Nat) (x : Double) : x.roundToNat limit ≤ limit := by
  cases x with
  | nan => exact Nat.zero_le limit
  | infinity negative =>
    cases negative with
    | true => exact Nat.zero_le limit
    | false => exact Nat.le_refl limit
  | finite negative units hunits =>
    cases negative with
    | true => exact Nat.zero_le limit
    | false =>
      rw [roundToNat_finite]
      exact Nat.min_le_left _ _

/-- A number that is rounded to a whole one below the limit is rounded to a double. -/
theorem representable_roundToNat {limit : Nat} (hlimit : limit ≤ 2 ^ rangeBits) {x : Double}
    (h : x.roundToNat limit < limit) : Representable (x.roundToNat limit * unitsPerOne) := by
  have hrange : x.roundToNat limit * unitsPerOne < magnitudeLimit :=
    mul_unitsPerOne_lt (Nat.lt_of_lt_of_le h hlimit)
  have hzero : Representable (0 * unitsPerOne) := by
    rw [Nat.zero_mul]
    exact representable_zero
  cases x with
  | nan => exact hzero
  | infinity negative =>
    cases negative with
    | true => exact hzero
    | false => exact absurd h (Nat.lt_irrefl limit)
  | finite negative units hunits =>
    cases negative with
    | true => exact hzero
    | false =>
      rw [roundToNat_finite] at h hrange ⊢
      have hnearest : Nat.min limit (nearest units) = nearest units := by
        rcases Nat.le_total limit (nearest units) with hge | hle
        · exact absurd (Nat.min_eq_left hge) (Nat.ne_of_lt h)
        · exact Nat.min_eq_right hle
      rw [hnearest] at hrange ⊢
      exact ⟨hrange, fits53_nearest hunits.2⟩

theorem not_lt_zero {units : Nat} (h : Representable units) :
    (finite false units h).lt 0 = false := by
  have hzero : (0 : Double) = finite false 0 representable_zero := by decide +kernel
  have hle : ¬ (units : Int) < (0 : Nat) := by omega
  rw [hzero]
  exact decide_eq_false hle

end Double

end PollAtlas
