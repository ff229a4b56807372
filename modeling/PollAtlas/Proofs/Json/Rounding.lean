import PollAtlas.Json.Numeral
import PollAtlas.Proofs.Number.Digits
import PollAtlas.Proofs.Number.Significant

/-!
# Numerals that are rounded once

The double of a numeral is computed with a rounding for its digits, one for the power of ten and one
for the result. Powers of ten up to `10 ^ 22` are doubles, because `5 ^ 22` has 52 bits. With digits
that are a double too the first two roundings leave everything as it is, so the double is the one
nearest to the numeral.

* `Double.ofNat_mul_powerOfTen`, `Double.ofNat_div_powerOfTen`: one rounding is left.
* `Decimal.IsPlain`: digits and a power of ten that are doubles.
* `Decimal.computed?_of_isPlain`: the double of such a decimal.
* `Json.Numeral.leading_eq`: all digits of a numeral count if they fit in 64 bits.
-/

namespace PollAtlas

open scoped Power

/-! ## Operations on finite doubles -/

theorem Double.finite_mul_finite (s t : Bool) {m n : Nat} (hm : Representable m)
    (hn : Representable n) :
    finite s m hm * finite t n hn = ofUnits (s != t) (m * n) unitsPerOne := by
  show (finite s m hm).mul (finite t n hn) = _
  rw [mul]

theorem Double.finite_div_finite (s t : Bool) {m n : Nat} (hm : Representable m)
    (hn : Representable n) (hne : n ≠ 0) :
    finite s m hm / finite t n hn = ofUnits (s != t) (m * unitsPerOne) n := by
  show (finite s m hm).div (finite t n hn) = _
  rw [div, if_neg hne]

/-! ## Digits and powers of ten -/

theorem Double.ofNat_of_isShort {n : Nat} (hshort : IsShort n) (hrange : n < 2 ^ rangeBits) :
    ∃ h, ofNat n = finite false (n * unitsPerOne) h := by
  have hfits : Fits53 (n * unitsPerOne) := by
    obtain ⟨m, e, hm, rfl⟩ := hshort
    rw [unitsPerOne, Nat.mul_assoc, ← Nat.pow_add]
    exact fits53_mul_pow (Nat.le_of_lt hm) _
  have h : Representable (n * unitsPerOne) := ⟨mul_unitsPerOne_lt hrange, hfits⟩
  have hexact := ofUnits_of_representable false h Nat.one_pos
  rw [Nat.mul_one] at hexact
  exact ⟨h, hexact⟩

theorem Double.ofNat_of_lt {n : Nat} (h : n < 2 ^ (53 : Nat)) :
    ∃ hn, ofNat n = finite false (n * unitsPerOne) hn :=
  ofNat_of_isShort ⟨n, 0, h, (Nat.mul_one n).symm⟩ (Nat.lt_trans h (by decide +kernel))

theorem isShort_ten_pow {e : Nat} (h : e ≤ 22) : IsShort (10 ^ e) := by
  refine ⟨5 ^ e, e, ?_, by rw [← Nat.mul_pow]⟩
  calc 5 ^ e ≤ 5 ^ (22 : Nat) := Nat.pow_le_pow_right (by decide) h
    _ < 2 ^ (53 : Nat) := by decide

theorem Double.powerOfTen_of_le {e : Nat} (h : e ≤ 22) :
    ∃ hpower, powerOfTen e = finite false (10 ^ e * unitsPerOne) hpower := by
  refine ofNat_of_isShort (isShort_ten_pow h) ?_
  calc 10 ^ e ≤ 10 ^ (22 : Nat) := Nat.pow_le_pow_right (by decide) h
    _ < 2 ^ rangeBits := by decide +kernel

/-! ## Plain decimals -/

section

variable {m e units : Nat} (hdigits : m < 2 ^ (53 : Nat)) (h : Representable units)

include hdigits

theorem Double.ofNat_mul_powerOfTen (he : e ≤ 22)
    (hnearest : (Decimal.mk m (.ofNat e)).nearestUnits = units) :
    ofNat m * powerOfTen e = finite false units h := by
  obtain ⟨hm, hleft⟩ := ofNat_of_lt hdigits
  obtain ⟨hpower, hright⟩ := powerOfTen_of_le he
  have hround : roundUnits (m * unitsPerOne * (10 ^ e * unitsPerOne)) unitsPerOne = units := by
    have hscaled := roundUnits_mul_mul (m * 10 ^ e * unitsPerOne) 1 unitsPerOne_pos
    have hfactors : ∀ unit : Nat, m * unit * (10 ^ e * unit) = m * 10 ^ e * unit * unit := by
      intro unit
      ac_rfl
    rw [Nat.one_mul] at hscaled
    rw [hfactors, hscaled]
    exact hnearest
  rw [hleft, hright, finite_mul_finite]
  exact Decimal.ofUnits_of_roundUnits h hround false

theorem Double.ofNat_div_powerOfTen (he : e + 1 ≤ 22)
    (hnearest : (Decimal.mk m (.negSucc e)).nearestUnits = units) :
    ofNat m / powerOfTen (e + 1) = finite false units h := by
  obtain ⟨hm, hleft⟩ := ofNat_of_lt hdigits
  obtain ⟨hpower, hright⟩ := powerOfTen_of_le he
  have hround : roundUnits (m * unitsPerOne * unitsPerOne) (10 ^ (e + 1) * unitsPerOne) =
      units := by
    rw [roundUnits_mul_mul _ _ unitsPerOne_pos]
    exact hnearest
  have hne : 10 ^ (e + 1) * unitsPerOne ≠ 0 :=
    Nat.ne_of_gt (Nat.mul_pos (Nat.pow_pos (by decide)) unitsPerOne_pos)
  rw [hleft, hright, finite_div_finite _ _ _ _ hne]
  exact Decimal.ofUnits_of_roundUnits h hround false

end

namespace Decimal

/-- The digits and the power of ten are doubles. -/
def IsPlain (d : Decimal) : Prop := d.digits < 2 ^ (53 : Nat) ∧ d.exponent.natAbs ≤ 22

instance (d : Decimal) : Decidable d.IsPlain := inferInstanceAs (Decidable (_ ∧ _))

theorem IsPlain.digits_le {d : Decimal} (h : d.IsPlain) : d.digits ≤ Json.significandLimit :=
  Nat.le_trans (Nat.le_of_lt h.1) (by decide)

/-- The result is the nearest double. -/
theorem computed?_of_isPlain {d : Decimal} {units : Nat} (h : Representable units)
    (hnearest : d.nearestUnits = units) (hplain : d.IsPlain) :
    d.computed? = some (.finite false units h) := by
  obtain ⟨m, exponent⟩ := d
  obtain ⟨hdigits, hexponent⟩ := hplain
  cases exponent with
  | ofNat e =>
    have he : e ≤ 22 := hexponent
    have hproduct := Double.ofNat_mul_powerOfTen hdigits h he hnearest
    have hle : e ≤ greatestPower := Nat.le_trans he (by decide)
    simp only [computed?, hproduct, if_pos hle]
    rfl
  | negSucc e =>
    have he : e + 1 ≤ 22 := hexponent
    have hquotient := Double.ofNat_div_powerOfTen hdigits h he hnearest
    have hle : e + 1 ≤ greatestPower := Nat.le_trans he (by decide)
    simp only [computed?, hquotient, if_pos hle]

/-- With one digit more the result may be a neighbour of the nearest double. -/
example : (mk 12697796919999999 (-14)).computed? ≠
    some ((mk 12697796919999999 (-14)).toDouble false) := by decide +kernel

end Decimal

/-! ## Digits that count -/

namespace Json

theorem le_ofDigitChars (cs : List Char) (n : Nat) : n ≤ Nat.ofDigitChars 10 cs n := by
  rw [Nat.ofDigitChars_eq_ofDigitChars_zero]
  exact Nat.le_trans (Nat.le_mul_of_pos_left n (Nat.pow_pos (by decide))) (Nat.le_add_right _ _)

/-- Digits that fit are all read. -/
theorem readDigits_eq {cs : List Char} {n : Nat}
    (h : Nat.ofDigitChars 10 cs n ≤ significandLimit) :
    readDigits n cs = (Nat.ofDigitChars 10 cs n, 0) := by
  induction cs generalizing n with
  | nil => rfl
  | cons c cs ih =>
    rw [Nat.ofDigitChars_cons, Nat.mul_comm 10 n] at h
    have hnext : n * 10 + (c.toNat - '0'.toNat) ≤ significandLimit :=
      Nat.le_trans (le_ofDigitChars cs _) h
    rw [readDigits, if_pos hnext, ih h, Nat.ofDigitChars_cons, Nat.mul_comm 10 n]

/-- All digits count if they fit. -/
theorem Numeral.leading_eq {x : Numeral}
    (h : natOfDigits (x.whole ++ x.fraction) ≤ significandLimit) :
    x.leading =
      ⟨natOfDigits (x.whole ++ x.fraction), x.exponent.getD 0 - x.fraction.length⟩ := by
  rw [natOfDigits_eq, Nat.ofDigitChars_append] at h
  have hwhole := readDigits_eq (Nat.le_trans (le_ofDigitChars x.fraction _) h)
  have hfraction := readDigits_eq h
  simp only [leading, hwhole, hfraction, natOfDigits_eq, Nat.ofDigitChars_append, Nat.sub_zero,
    Int.natCast_zero, Int.add_zero]

end Json

end PollAtlas
