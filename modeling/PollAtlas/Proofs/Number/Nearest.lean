import PollAtlas.Number.Text

/-!
# The double nearest to a decimal

Turning a decimal into a double rounds a quotient of whole numbers once. The quotient is what
counts: a common factor of the two numbers changes nothing, so neither do zeros moved from the
digits into the exponent. The two bounds on the exponent save powers of ten where the result is
infinite or zero anyway, so they do not show.

* `toDouble_of_nearestUnits`: a decimal that rounds to a magnitude in range is turned into it.
* `Decimal.nearestUnits_mul_pow`, `Decimal.nearestUnits_trimZeros`: zeros at the end of the
  digits do not count.
* `Layout.nearestUnits_decimal`: the digits that a double is written with lead back to it.
-/

namespace PollAtlas

open scoped Power

/-! ## Rounding a quotient -/

theorem roundHalfEven_mul_mul (num den : Nat) {k : Nat} (hk : 0 < k) :
    roundHalfEven (num * k) (den * k) = roundHalfEven num den := by
  have hdiv : num * k / (den * k) = num / den := Nat.mul_div_mul_right num den hk
  have hmod : num * k % (den * k) = num % den * k := Nat.mul_mod_mul_right k num den
  have htwice : 2 * (num % den * k) = 2 * (num % den) * k := (Nat.mul_assoc 2 _ k).symm
  have hlt : 2 * (num % den) * k < den * k ↔ 2 * (num % den) < den := Nat.mul_lt_mul_right hk
  have heq : 2 * (num % den) * k = den * k ↔ 2 * (num % den) = den := Nat.mul_left_inj (by omega)
  simp only [roundHalfEven, hdiv, hmod, htwice, hlt, heq]

theorem roundUnits_mul_mul (num den : Nat) {k : Nat} (hk : 0 < k) :
    roundUnits (num * k) (den * k) = roundUnits num den := by
  have hswap : ∀ p : Nat, den * k * p = den * p * k := fun p => Nat.mul_right_comm den k p
  simp only [roundUnits, Nat.mul_div_mul_right num den hk, hswap, roundHalfEven_mul_mul _ _ hk]

theorem roundUnits_eq_zero {num den : Nat} (h : 2 * num < den) : roundUnits num den = 0 := by
  have hquotient : num / den = 0 := Nat.div_eq_of_lt (by omega)
  have hlog : Nat.log2 0 - 52 = 0 := by decide
  have hrest : num % den = num := Nat.mod_eq_of_lt (by omega)
  simp only [roundUnits, hquotient, hlog, Nat.pow_zero, Nat.mul_one, roundHalfEven, hrest, h,
    true_or, if_true]

/-- Rounding does not fall below a power of two that the quotient reaches. -/
theorem two_pow_le_roundUnits {num den k : Nat} (h : 2 ^ k ≤ num / den) :
    2 ^ k ≤ roundUnits num den := by
  have hne : num / den ≠ 0 := by
    have hpos := Nat.two_pow_pos k
    omega
  have hk : k ≤ (num / den).log2 := (Nat.le_log2 hne).mpr h
  generalize hexcess : (num / den).log2 - 52 = excess
  have hround : num / (den * 2 ^ excess) ≤ roundHalfEven num (den * 2 ^ excess) :=
    le_roundHalfEven _ _
  have hleading : 2 ^ ((num / den).log2 - excess) ≤ num / (den * 2 ^ excess) := by
    rw [← Nat.div_div_eq_div_mul, Nat.le_div_iff_mul_le (Nat.two_pow_pos excess), ← Nat.pow_add,
      Nat.sub_add_cancel (by omega)]
    exact Nat.log2_self_le hne
  have hscaled := Nat.mul_le_mul_right (2 ^ excess) (Nat.le_trans hleading hround)
  rw [← Nat.pow_add, Nat.sub_add_cancel (by omega)] at hscaled
  rw [roundUnits, hexcess]
  exact Nat.le_trans (Nat.pow_le_pow_right Nat.two_pos hk) hscaled

namespace Decimal

/-! ## Zeros at the end -/

/-- Ten times the digits and one place less is the same number. -/
theorem nearestUnits_mul_ten (m : Nat) (e : Int) :
    nearestUnits ⟨m * 10, e⟩ = nearestUnits ⟨m, e + 1⟩ := by
  have hunits : m * 10 * Double.unitsPerOne = m * Double.unitsPerOne * 10 :=
    Nat.mul_right_comm m 10 _
  cases e with
  | ofNat e =>
    have hexponent : Int.ofNat e + 1 = Int.ofNat (e + 1) := rfl
    have hpow : m * 10 * 10 ^ e = m * 10 ^ (e + 1) := by
      rw [Nat.mul_assoc, ← Nat.pow_succ']
    simp only [nearestUnits, hexponent, hpow]
  | negSucc e =>
    cases e with
    | zero =>
      have hexponent : Int.negSucc 0 + 1 = Int.ofNat 0 := rfl
      have hscaled := roundUnits_mul_mul (m * Double.unitsPerOne) 1 (k := 10) (by decide)
      simp only [nearestUnits, hexponent, hunits, Nat.pow_zero, Nat.mul_one]
      exact hscaled
    | succ e =>
      have hexponent : Int.negSucc (e + 1) + 1 = Int.negSucc e := rfl
      have hpow : 10 ^ (e + 1 + 1) = 10 ^ (e + 1) * 10 := Nat.pow_succ 10 (e + 1)
      simp only [nearestUnits, hexponent, hunits, hpow]
      exact roundUnits_mul_mul _ _ (by decide)

theorem nearestUnits_mul_pow (m k : Nat) (e : Int) :
    nearestUnits ⟨m * 10 ^ k, e⟩ = nearestUnits ⟨m, e + k⟩ := by
  induction k generalizing e with
  | zero => simp
  | succ k ih =>
    rw [Nat.pow_succ, ← Nat.mul_assoc, nearestUnits_mul_ten, ih]
    congr 2
    omega

theorem nearestUnits_trimZeros (d : Decimal) : d.trimZeros.nearestUnits = d.nearestUnits := by
  induction d using trimZeros.induct with
  | case1 d h ih =>
    rw [trimZeros, dif_pos h, ih, ← nearestUnits_mul_ten, Nat.div_mul_cancel (by omega)]
  | case2 d h => rw [trimZeros, dif_neg h]

/-! ## In range -/

theorem nearestUnits_of_digits_eq_zero {d : Decimal} (h : d.digits = 0) : d.nearestUnits = 0 := by
  rw [nearestUnits]
  split
  · rw [h, Nat.zero_mul, Nat.zero_mul]
    exact roundUnits_eq_zero (by decide)
  · rw [h, Nat.zero_mul]
    exact roundUnits_eq_zero (Nat.pow_pos (by decide))

/-- From `10 ^ 401` on a decimal is out of range. -/
theorem le_nearestUnits_of_large {m e : Nat} (hm : m ≠ 0) (he : 400 < e) :
    magnitudeLimit ≤ nearestUnits ⟨m, .ofNat e⟩ := by
  refine two_pow_le_roundUnits ?_
  rw [Nat.div_one, Nat.pow_add]
  refine Nat.mul_le_mul ?_ (Nat.le_refl _)
  have hbits : rangeBits ≤ 3 * e := by
    rw [rangeBits]
    omega
  calc 2 ^ rangeBits ≤ 2 ^ (3 * e) := Nat.pow_le_pow_right Nat.two_pos hbits
    _ = 8 ^ e := Nat.pow_mul 2 3 e
    _ ≤ 10 ^ e := Nat.pow_le_pow_left (by decide) e
    _ ≤ m * 10 ^ e := Nat.le_mul_of_pos_left _ (Nat.pos_of_ne_zero hm)

/-- Below `2 ^ -1076` a decimal is rounded to zero. -/
theorem nearestUnits_of_small {m e : Nat} (h : m.log2 + 1 + (unitBits + 2) ≤ 3 * (e + 1)) :
    nearestUnits ⟨m, .negSucc e⟩ = 0 := by
  refine roundUnits_eq_zero ?_
  have hm : m < 2 ^ (m.log2 + 1) := Nat.lt_log2_self
  have hpow : 2 ^ (m.log2 + 1) * 2 ^ (unitBits + 2) ≤ 10 ^ (e + 1) := by
    calc 2 ^ (m.log2 + 1) * 2 ^ (unitBits + 2) = 2 ^ (m.log2 + 1 + (unitBits + 2)) :=
          (Nat.pow_add 2 _ _).symm
      _ ≤ 2 ^ (3 * (e + 1)) := Nat.pow_le_pow_right Nat.two_pos h
      _ = 8 ^ (e + 1) := Nat.pow_mul 2 3 (e + 1)
      _ ≤ 10 ^ (e + 1) := Nat.pow_le_pow_left (by decide) (e + 1)
  refine Nat.lt_of_lt_of_le ?_ hpow
  calc 2 * (m * Double.unitsPerOne) = m * (2 * Double.unitsPerOne) := Nat.mul_left_comm 2 m _
    _ < 2 ^ (m.log2 + 1) * (2 * Double.unitsPerOne) :=
        Nat.mul_lt_mul_of_pos_right hm (Nat.mul_pos Nat.two_pos Double.unitsPerOne_pos)
    _ ≤ 2 ^ (m.log2 + 1) * 2 ^ (unitBits + 2) := by
        refine Nat.mul_le_mul (Nat.le_refl _) ?_
        rw [Double.unitsPerOne, Nat.pow_add, Nat.mul_comm]
        exact Nat.mul_le_mul (Nat.le_refl _) (by decide)

theorem ofUnits_of_roundUnits {num den units : Nat} (h : Representable units)
    (hunits : roundUnits num den = units) (negative : Bool) :
    Double.ofUnits negative num den = .finite negative units h := by
  subst hunits
  simp only [Double.ofUnits, h.1, dif_pos]

/-- A decimal that rounds to a magnitude in range is turned into the double of that
magnitude. -/
theorem toDouble_of_nearestUnits {d : Decimal} {units : Nat} (h : Representable units)
    (hd : d.nearestUnits = units) (negative : Bool) :
    d.toDouble negative = .finite negative units h := by
  obtain ⟨m, e⟩ := d
  by_cases hm : m = 0
  · have hzero : units = 0 := hd.symm.trans (nearestUnits_of_digits_eq_zero hm)
    subst hzero
    simp only [toDouble, hm, if_true]
  · cases e with
    | ofNat e =>
      have hlarge : ¬ 400 < e := by
        intro hlarge
        have hlimit := le_nearestUnits_of_large hm hlarge
        rw [hd] at hlimit
        exact absurd h.1 (Nat.not_lt.mpr hlimit)
      simp only [toDouble, hm, if_false, hlarge, Double.ofRatio]
      exact ofUnits_of_roundUnits h hd negative
    | negSucc e =>
      by_cases hsmall : m.log2 + 1 + (unitBits + 2) ≤ 3 * (e + 1)
      · have hzero : units = 0 := hd.symm.trans (nearestUnits_of_small hsmall)
        subst hzero
        simp only [toDouble, hm, if_false, hsmall, if_true]
      · simp only [toDouble, hm, if_false, hsmall, Double.ofRatio]
        exact ofUnits_of_roundUnits h hd negative

end Decimal

/-- The fewest digits of a magnitude are turned back into it. -/
theorem Layout.nearestUnits_decimal (layout : Layout) {units : Nat} (h : Fits53 units) :
    (layout.decimal units).nearestUnits = units := by
  rw [Layout.decimal]
  split
  · rename_i hzero
    rw [hzero]
    exact Decimal.nearestUnits_of_digits_eq_zero rfl
  · rw [Decimal.nearestUnits_trimZeros]
    exact Decimal.nearestUnits_shortest layout.tie h

end PollAtlas
