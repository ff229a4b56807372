import PollAtlas.Number.Power

/-!
# Double-precision numbers

A finite double is a whole multiple of the least positive one, `2 ^ -1074`, whose
magnitude has at most 53 significant bits. With magnitudes counted in that unit every
operation is exact whole-number arithmetic followed by one rounding.

* `roundUnits_dvd`: rounding leaves at most 53 significant bits.
* `roundUnits_of_representable`: a magnitude that is representable is not moved.
* `Double.add`, `Double.mul`, `Double.div`, `Double.mulAdd`: the exact result, rounded
  once, a half going to the even neighbour.
-/

namespace PollAtlas

open scoped Power

/-! ## Rounding -/

/-- The whole number nearest to `num / den`; a half goes to the even one. -/
def roundHalfEven (num den : Nat) : Nat :=
  let quotient := num / den
  let twice := 2 * (num % den)
  if twice < den ∨ (twice = den ∧ quotient % 2 = 0) then quotient else quotient + 1

theorem roundHalfEven_le (num den : Nat) : roundHalfEven num den ≤ num / den + 1 := by
  unfold roundHalfEven
  dsimp only
  split <;> omega

theorem le_roundHalfEven (num den : Nat) : num / den ≤ roundHalfEven num den := by
  unfold roundHalfEven
  dsimp only
  split <;> omega

theorem roundHalfEven_mul (n : Nat) {den : Nat} (h : 0 < den) :
    roundHalfEven (n * den) den = n := by
  unfold roundHalfEven
  simp [Nat.mul_div_cancel n h, h]

/-- `num / den` units rounded to 53 significant bits, and to a whole number of units. -/
def roundUnits (num den : Nat) : Nat :=
  let excess := (num / den).log2 - 52
  roundHalfEven num (den * 2 ^ excess) * 2 ^ excess

/-- The bits of `n` beyond the first 53 are zero. -/
def Fits53 (n : Nat) : Prop := 2 ^ (n.log2 - 52) ∣ n

instance (n : Nat) : Decidable (Fits53 n) := inferInstanceAs (Decidable (_ ∣ _))

theorem fits53_mul_pow {q : Nat} (hq : q ≤ 2 ^ (53 : Nat)) (e : Nat) : Fits53 (q * 2 ^ e) := by
  unfold Fits53
  by_cases h0 : q = 0
  · simp [h0]
  by_cases hlt : q < 2 ^ (53 : Nat)
  · have hlog : q.log2 < 53 := (Nat.log2_lt h0).mpr hlt
    have hprod : q * 2 ^ e ≠ 0 := Nat.mul_ne_zero h0 (Nat.ne_of_gt (Nat.two_pow_pos e))
    have hbound : (q * 2 ^ e).log2 < 53 + e := by
      rw [Nat.log2_lt hprod, Nat.pow_add]
      exact Nat.mul_lt_mul_of_pos_right hlt (Nat.two_pow_pos e)
    exact Nat.dvd_trans (Nat.pow_dvd_pow 2 (by omega)) (Nat.dvd_mul_left _ _)
  · have hq' : q = 2 ^ (53 : Nat) := by omega
    subst hq'
    rw [← Nat.pow_add, Nat.log2_two_pow]
    exact Nat.pow_dvd_pow 2 (by omega)

theorem roundUnits_dvd (num den : Nat) : Fits53 (roundUnits num den) := by
  unfold roundUnits
  dsimp only
  refine fits53_mul_pow ?_ _
  have hle := roundHalfEven_le num (den * 2 ^ ((num / den).log2 - 52))
  have hfloor : num / (den * 2 ^ ((num / den).log2 - 52)) < 2 ^ (53 : Nat) := by
    rw [← Nat.div_div_eq_div_mul, Nat.div_lt_iff_lt_mul (Nat.two_pow_pos _), ← Nat.pow_add]
    refine Nat.lt_of_lt_of_le Nat.lt_log2_self (Nat.pow_le_pow_right (by decide) ?_)
    omega
  omega

theorem roundUnits_of_fits53 {n : Nat} (h : Fits53 n) {den : Nat} (hden : 0 < den) :
    roundUnits (n * den) den = n := by
  unfold roundUnits
  dsimp only
  rw [Nat.mul_div_cancel n hden]
  obtain ⟨m, hm⟩ := h
  have hpow : 0 < den * 2 ^ (n.log2 - 52) := Nat.mul_pos hden (Nat.two_pow_pos _)
  have hshape : n * den = m * (den * 2 ^ (n.log2 - 52)) := by
    conv => lhs; rw [hm]
    rw [Nat.mul_comm (2 ^ _) m, Nat.mul_assoc, Nat.mul_comm (2 ^ _) den]
  rw [hshape, roundHalfEven_mul m hpow, Nat.mul_comm m]
  exact hm.symm

/-! ## The type -/

/-- The least positive double is `2 ^ -1074`. -/
def unitBits : Nat := 1074

/-- A finite double stays below `2 ^ 1024`. -/
def rangeBits : Nat := 1024

/-- The least magnitude, in units of `2 ^ -1074`, that is too large for a finite double. -/
def magnitudeLimit : Nat := 2 ^ (rangeBits + unitBits)

theorem magnitudeLimit_pos : 0 < magnitudeLimit := Nat.two_pow_pos _

/-- A magnitude that some finite double has, in units of `2 ^ -1074`. -/
def Representable (n : Nat) : Prop := n < magnitudeLimit ∧ Fits53 n

instance (n : Nat) : Decidable (Representable n) := inferInstanceAs (Decidable (_ ∧ _))

theorem representable_zero : Representable 0 := ⟨magnitudeLimit_pos, Nat.dvd_zero _⟩

/-- A double-precision number. The sign of a zero is kept, and all results that are no
number are one value. -/
inductive Double where
  | nan
  | infinity (negative : Bool)
  | finite (negative : Bool) (units : Nat) (representable : Representable units)
  deriving DecidableEq

namespace Double

/-- One, in units of `2 ^ -1074`. -/
def unitsPerOne : Nat := 2 ^ unitBits

theorem unitsPerOne_pos : 0 < unitsPerOne := Nat.two_pow_pos _

/-- The double nearest to `± num / den` units, infinite when that is out of range. -/
def ofUnits (negative : Bool) (num den : Nat) : Double :=
  let n := roundUnits num den
  if h : n < magnitudeLimit then finite negative n ⟨h, roundUnits_dvd num den⟩
  else infinity negative

theorem ofUnits_of_representable (negative : Bool) {n : Nat} (h : Representable n) {den : Nat}
    (hden : 0 < den) : ofUnits negative (n * den) den = finite negative n h := by
  simp [ofUnits, roundUnits_of_fits53 h.2 hden, h.1]

/-- The double nearest to `± num / den`. -/
def ofRatio (negative : Bool) (num den : Nat) : Double :=
  ofUnits negative (num * unitsPerOne) den

/-- The double nearest to a whole number. -/
def ofNat (n : Nat) : Double := ofRatio false n 1

/-- The double nearest to an integer; there is no negative zero among these. -/
def ofInt (n : Int) : Double := ofRatio (n < 0) n.natAbs 1

def zero : Double := finite false 0 representable_zero

instance : Inhabited Double := ⟨zero⟩

instance (n : Nat) : OfNat Double n := ⟨ofNat n⟩

def isFinite : Double → Bool
  | finite .. => true
  | _ => false

def isNaN : Double → Bool
  | nan => true
  | _ => false

/-- The sign bit; a number that is none has no sign. -/
def isNegative : Double → Bool
  | nan => false
  | infinity negative => negative
  | finite negative .. => negative

/-- A signed magnitude as an integer number of units. -/
def signedUnits (negative : Bool) (units : Nat) : Int :=
  if negative then -(units : Int) else units

/-! ## Order -/

/-- `a < b`; false as soon as one of the two is no number. -/
def lt : Double → Double → Bool
  | nan, _ => false
  | _, nan => false
  | infinity a, infinity b => a && !b
  | infinity a, finite .. => a
  | finite .., infinity b => !b
  | finite s m _, finite t n _ => signedUnits s m < signedUnits t n

/-- The lesser of two, the first of two equal ones, and a number rather than none. -/
def min (a b : Double) : Double :=
  if a.isNaN then b else if b.lt a then b else a

/-- The greater of two, the first of two equal ones, and a number rather than none. -/
def max (a b : Double) : Double :=
  if a.isNaN then b else if a.lt b then b else a

/-! ## Arithmetic -/

def neg : Double → Double
  | nan => nan
  | infinity s => infinity (!s)
  | finite s n h => finite (!s) n h

/-- The double nearest to `sum / den` units; an exact zero is negative only when both
of its parts were. -/
def ofSum (bothNegative : Bool) (sum : Int) (den : Nat) : Double :=
  if sum = 0 then finite bothNegative 0 representable_zero
  else ofUnits (sum < 0) sum.natAbs den

def add : Double → Double → Double
  | nan, _ => nan
  | _, nan => nan
  | infinity s, infinity t => if s = t then infinity s else nan
  | infinity s, finite .. => infinity s
  | finite .., infinity t => infinity t
  | finite s m _, finite t n _ => ofSum (s && t) (signedUnits s m + signedUnits t n) 1

def sub (a b : Double) : Double := add a (neg b)

def mul : Double → Double → Double
  | nan, _ => nan
  | _, nan => nan
  | infinity s, infinity t => infinity (s != t)
  | infinity s, finite t n _ => if n = 0 then nan else infinity (s != t)
  | finite s m _, infinity t => if m = 0 then nan else infinity (s != t)
  | finite s m _, finite t n _ => ofUnits (s != t) (m * n) unitsPerOne

def div : Double → Double → Double
  | nan, _ => nan
  | _, nan => nan
  | infinity _, infinity _ => nan
  | infinity s, finite t .. => infinity (s != t)
  | finite s .., infinity t => finite (s != t) 0 representable_zero
  | finite s m _, finite t n _ =>
    if n = 0 then
      if m = 0 then nan else infinity (s != t)
    else ofUnits (s != t) (m * unitsPerOne) n

/-- `a * b + c`, rounded once. -/
def mulAdd : Double → Double → Double → Double
  | finite s m _, finite t n _, finite u k _ =>
    ofSum ((s != t) && u)
      (signedUnits (s != t) (m * n) + signedUnits u (k * unitsPerOne)) unitsPerOne
  | a, b, c => add (mul a b) c

instance : Add Double := ⟨add⟩
instance : Sub Double := ⟨sub⟩
instance : Mul Double := ⟨mul⟩
instance : Div Double := ⟨div⟩
instance : Neg Double := ⟨neg⟩
instance : Min Double := ⟨min⟩
instance : Max Double := ⟨max⟩

/-! ## Whole numbers and words -/

/-- The whole number nearest to a number that is not negative, a half going up, and at
most `limit`. -/
def roundToNat (limit : Nat) : Double → Nat
  | nan => 0
  | infinity negative => if negative then 0 else limit
  | finite negative units _ =>
    if negative then 0
    else Nat.min limit ((2 * units + unitsPerOne) / (2 * unitsPerOne))

/-- The number of bits of the fraction in the interchange word. -/
def fractionBits : Nat := 52

/-- The sign bit of the interchange word. -/
def signWord (negative : Bool) : Nat := if negative then 0x8000000000000000 else 0

/-- The 64-bit interchange word: sign, exponent of 11 bits, fraction of 52 bits. -/
def toWord : Double → Nat
  | nan => 0x7ff8000000000000
  | infinity negative => signWord negative + 0x7ff0000000000000
  | finite negative units _ =>
    let magnitude :=
      if units < 2 ^ fractionBits then units
      else
        let excess := units.log2 - fractionBits
        excess * 2 ^ fractionBits + units / 2 ^ excess
    signWord negative + magnitude

end Double

end PollAtlas
