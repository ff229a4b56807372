/-!
# Powers of whole numbers

Under `open scoped PollAtlas.Power` a power of a whole number is `Nat.pow`, whatever other
powers are in scope.
-/

namespace PollAtlas.Power

/-- A power of a whole number is `Nat.pow`. -/
scoped instance natPow : Pow Nat Nat := instPowNat

end PollAtlas.Power
