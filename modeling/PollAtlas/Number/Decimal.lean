import PollAtlas.Number.Double

/-!
# Decimal numbers

A decimal is a whole number of digits scaled by a power of ten. Here a decimal is turned
into the nearest double, and a double into the decimal with the fewest digits that is
turned back into it.

* `Decimal.nearestUnits_exact`: the full expansion of a double is turned back into it.
* `Decimal.nearestUnits_shortest`: so is the decimal with the fewest digits.
-/

namespace PollAtlas

open scoped Power

/-- The number `digits * 10 ^ exponent`. -/
structure Decimal where
  digits : Nat
  exponent : Int
  deriving DecidableEq, Repr

namespace Decimal

/-- The magnitude of the nearest double, in units, with no bound on its range. -/
def nearestUnits (d : Decimal) : Nat :=
  match d.exponent with
  | .ofNat e => roundUnits (d.digits * 10 ^ e * Double.unitsPerOne) 1
  | .negSucc e => roundUnits (d.digits * Double.unitsPerOne) (10 ^ (e + 1))

/-- The nearest double. A number from `10 ^ 401` on is infinite and one below `2 ^ -1076`
is zero, so neither needs its power of ten. -/
def toDouble (negative : Bool) (d : Decimal) : Double :=
  if d.digits = 0 then .finite negative 0 representable_zero
  else
    match d.exponent with
    | .ofNat e =>
      if 400 < e then .infinity negative else .ofRatio negative (d.digits * 10 ^ e) 1
    | .negSucc e =>
      if d.digits.log2 + 1 + (unitBits + 2) ≤ 3 * (e + 1) then
        .finite negative 0 representable_zero
      else .ofRatio negative d.digits (10 ^ (e + 1))

/-! ## The fewest digits -/

/-- The exact value of a magnitude: `units / 2 ^ 1074 = units * 5 ^ 1074 / 10 ^ 1074`. -/
def exact (units : Nat) : Decimal :=
  ⟨units * 5 ^ unitBits, Int.negSucc (unitBits - 1)⟩

theorem nearestUnits_exact {units : Nat} (h : Fits53 units) :
    (exact units).nearestUnits = units := by
  have hbits : unitBits - 1 + 1 = unitBits := Nat.sub_add_cancel (by decide)
  simp only [exact, nearestUnits, hbits, Double.unitsPerOne]
  rw [Nat.mul_assoc, ← Nat.mul_pow, show 5 * 2 = 10 from rfl]
  exact roundUnits_of_fits53 h (Nat.pow_pos (by decide))

/-- A magnitude divided by a power of ten, as a numerator and a denominator. -/
def scaled (units : Nat) : Int → Nat × Nat
  | .ofNat e => (units, Double.unitsPerOne * 10 ^ e)
  | .negSucc e => (units * 10 ^ (e + 1), Double.unitsPerOne)

/-- The magnitude is at least `10 ^ e`. -/
def reaches (units : Nat) (e : Int) : Bool :=
  let (num, den) := scaled units e
  den ≤ num

/-- The exponent of the leading decimal digit. The binary logarithm gives it up to one;
`1233 / 4096` is `log 2 / log 10` to five places. -/
def leadingExponent (units : Nat) : Int :=
  let estimate := ((units.log2 : Int) - unitBits) * 1233 / 4096
  if reaches units (estimate + 1) then estimate + 1
  else if reaches units estimate then estimate
  else estimate - 1

/-- What becomes of a magnitude midway between two candidates. -/
inductive Tie where
  | toEven
  | up
  deriving DecidableEq, Repr

/-- Of the two neighbours of a magnitude on the grid of `10 ^ e`, the one that is turned
back into it; of two such the nearer. -/
def onGrid? (tie : Tie) (units : Nat) (e : Int) : Option Decimal :=
  let (num, den) := scaled units e
  let lower : Decimal := ⟨num / den, e⟩
  let upper : Decimal := ⟨num / den + 1, e⟩
  match lower.nearestUnits == units, upper.nearestUnits == units with
  | false, false => none
  | true, false => some lower
  | false, true => some upper
  | true, true =>
    let twice := 2 * (num % den)
    if twice < den ∨ (twice = den ∧ tie = .toEven ∧ lower.digits % 2 = 0) then some lower
    else some upper

/-- Moves the zeros at the end of the digits into the exponent. -/
def trimZeros (d : Decimal) : Decimal :=
  if h : d.digits ≠ 0 ∧ d.digits % 10 = 0 then trimZeros ⟨d.digits / 10, d.exponent + 1⟩ else d
termination_by d.digits
decreasing_by omega

/-- The decimal with the fewest digits, at most seventeen, that is turned back into the
magnitude. -/
def shortest (tie : Tie) (units : Nat) : Decimal :=
  let leading := leadingExponent units
  let found := (List.range 17).findSome? fun (places : Nat) => onGrid? tie units (leading - places)
  found.getD (exact units)

theorem nearestUnits_of_onGrid? {tie : Tie} {units : Nat} {e : Int} {d : Decimal}
    (h : onGrid? tie units e = some d) : d.nearestUnits = units := by
  unfold onGrid? at h
  dsimp only at h
  split at h
  · cases h
  · rename_i hl _
    cases h
    simpa using hl
  · rename_i _ hu
    cases h
    simpa using hu
  · rename_i hl hu
    split at h
    · cases h
      simpa using hl
    · cases h
      simpa using hu

theorem nearestUnits_shortest (tie : Tie) {units : Nat} (h : Fits53 units) :
    (shortest tie units).nearestUnits = units := by
  unfold shortest
  dsimp only
  cases hf : (List.range 17).findSome? fun (places : Nat) =>
      onGrid? tie units (leadingExponent units - places) with
  | none => simpa using nearestUnits_exact h
  | some d =>
    obtain ⟨places, -, hd⟩ := List.exists_of_findSome?_eq_some hf
    simpa using nearestUnits_of_onGrid? hd

end Decimal

end PollAtlas
