import PollAtlas.Number.Double

/-!
# Scalars

The numbers that coordinates are made of. Maps are drawn with doubles; with rationals in
their place the same definitions say what the drawing approximates.
-/

namespace PollAtlas

/-- Numbers that a point can be scaled with. -/
class Scalar (α : Type) extends Add α, Sub α, Mul α, Div α, Neg α, Min α, Max α where
  /-- The scalar nearest to `num / den`. -/
  ofRatio (num den : Nat) : α
  /-- `a * b + c` with a single rounding. -/
  mulAdd (a b c : α) : α

namespace Scalar

variable {α : Type} [Scalar α]

/-- The scalar nearest to a whole number. -/
def ofNat (n : Nat) : α := ofRatio n 1

end Scalar

instance : Scalar Double where
  ofRatio := Double.ofRatio false
  mulAdd := Double.mulAdd

/-- Rationals are not rounded at all. -/
instance : Scalar Rat where
  min a b := if b < a then b else a
  max a b := if a < b then b else a
  ofRatio num den := num / den
  mulAdd a b c := a * b + c

end PollAtlas
