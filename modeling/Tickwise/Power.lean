/-!
# Powers of two and ten

The limits of words, and the weights of decimal places.
-/

namespace Tickwise

/-- `2 ^ n`, the least number that does not fit in `n` bits. -/
abbrev pow2 (n : Nat) : Nat := Nat.pow 2 n

/-- `10 ^ n`, the weight of the digit before `n` others. -/
abbrev pow10 (n : Nat) : Nat := Nat.pow 10 n

/-- Whether a number fits in so many bits with a sign. -/
def FitsSigned (bits : Nat) (n : Int) : Prop :=
  -(pow2 (bits - 1) : Int) ≤ n ∧ n < pow2 (bits - 1)

instance (bits : Nat) (n : Int) : Decidable (FitsSigned bits n) :=
  inferInstanceAs (Decidable (_ ∧ _))

end Tickwise
