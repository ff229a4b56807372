import PollAtlas.Json.Token
import PollAtlas.Json.Value

/-!
# Numbers of a document

Whole numbers of 64 bits are kept. The double of any other numeral is computed in doubles: from
its leading digits, as far as these fit in 64 bits, and a power of ten that they are multiplied by
or divided by. Both are rounded before and the result is rounded again, so it need not be the double
nearest to the numeral.

* `Numeral.leading`: the digits that count.
* `Decimal.computed?`: the double of a decimal, step by step.
* `Number.ofNumeral?`: the number of a numeral.
-/

namespace PollAtlas

open scoped Power

/-! ## Powers of ten -/

/-- The greatest power of ten that is a double. -/
def greatestPower : Nat := 308

/-- The double nearest to a power of ten. -/
def Double.powerOfTen (e : Nat) : Double := .ofNat (10 ^ e)

/-- A decimal with digits of 64 bits as a double, with a rounding for the digits, for the power of
ten and for the result, unless that is out of range. Divided by the greatest power twice, such
digits leave nothing. -/
def Decimal.computed? (d : Decimal) : Option Double :=
  let x := Double.ofNat d.digits
  match d.exponent with
  | .ofNat e =>
    if e ≤ greatestPower then
      let product := x * Double.powerOfTen e
      if product.isFinite then some product else none
    else if d.digits = 0 then some x
    else none
  | .negSucc e =>
    let places := e + 1
    if places ≤ greatestPower then some (x / Double.powerOfTen places)
    else if places ≤ 2 * greatestPower then
      some (x / Double.powerOfTen greatestPower / Double.powerOfTen (places - greatestPower))
    else some 0

namespace Json

/-! ## Numerals -/

/-- The greatest number of 64 bits. -/
def significandLimit : Nat := 0xffffffffffffffff

/-- A number with further digits behind it, up to the first that it has no room for, and how many
are left over. -/
def readDigits (n : Nat) : List Char → Nat × Nat
  | [] => (n, 0)
  | c :: cs =>
    let next := n * 10 + (c.toNat - '0'.toNat)
    if next ≤ significandLimit then readDigits next cs else (n, cs.length + 1)

namespace Numeral

/-- Written without a point and an exponent. -/
def integral (x : Numeral) : Bool := x.fraction.isEmpty && x.exponent.isNone

/-- The decimal of the leading digits. Whole digits that are left over count as zeros. -/
def leading (x : Numeral) : Decimal :=
  let (whole, skipped) := readDigits 0 x.whole
  let (digits, dropped) := readDigits whole x.fraction
  ⟨digits, x.exponent.getD 0 + skipped - (x.fraction.length - dropped : Nat)⟩

end Numeral

namespace Number

/-- The integers that are kept as they are: 64 bits with or without a sign. -/
def IsExact (n : Int) : Prop := -0x8000000000000000 ≤ n ∧ n ≤ 0xffffffffffffffff

instance (n : Int) : Decidable (IsExact n) := inferInstanceAs (Decidable (_ ∧ _))

/-- The number of a numeral, unless it is out of range. A negative zero is a double. -/
def ofNumeral? (x : Numeral) : Option Number :=
  let n : Int := if x.negative then -(natOfDigits x.whole : Int) else natOfDigits x.whole
  if x.integral ∧ IsExact n ∧ ¬(x.negative ∧ n = 0) then some (.int n)
  else x.leading.computed?.map fun magnitude => .double (if x.negative then -magnitude else magnitude)

end Number

end Json

end PollAtlas
