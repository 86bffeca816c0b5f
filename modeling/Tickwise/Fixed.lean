import Tickwise.Fault

/-!
# Fixed-point arithmetic

Square-root prices are numbers of 256 bits in units of `2 ^ (-96)`. Products are carried in
full and rounded once, by the division that follows them.

* `mulDiv`, `mulDivUp` — a product over a denominator, rounded down or up;
* `divUp` — a quotient rounded up.

When each succeeds, and with what, is said by `mulDiv_eq_ok_iff` and its neighbours;
`ceilDiv_le_iff` says what rounding up is.
-/

namespace Tickwise

/-- The square-root price one. -/
def q96 : Nat := pow2 96

/-- The least number that does not fit in 256 bits. -/
def wordLimit : Nat := pow2 256

/-- The greatest amount. -/
def maxWord : Nat := wordLimit - 1

/-- The least liquidity that does not fit in 128 bits. -/
def liquidityLimit : Nat := pow2 128

/-- A result that has to fit in 256 bits. -/
def narrow (calculation : Calculation) (n : Nat) : Except Fault Nat :=
  if n < wordLimit then .ok n else .error (.mathOverflow calculation)

/-- The quotient of two natural numbers, rounded up. -/
def ceilDiv (a b : Nat) : Nat := if a % b = 0 then a / b else a / b + 1

/-- `a * b / denominator`, rounded down. -/
def mulDiv (a b denominator : Nat) : Except Fault Nat :=
  if denominator = 0 then .error .divisionByZero
  else narrow .mulDiv (a * b / denominator)

/-- `a * b / denominator`, rounded up. -/
def mulDivUp (a b denominator : Nat) : Except Fault Nat :=
  if denominator = 0 then .error .divisionByZero
  else narrow .mulDivUp (ceilDiv (a * b) denominator)

/-- `a / b`, rounded up. -/
def divUp (a b : Nat) : Except Fault Nat :=
  if b = 0 then .error .divisionByZero else .ok (ceilDiv a b)

/-! ## Laws -/

theorem narrow_eq_ok_iff {calculation : Calculation} {n m : Nat} :
    narrow calculation n = .ok m ↔ n < wordLimit ∧ n = m := by
  unfold narrow
  split <;> rename_i h <;> simp [h]

/-- The quotient rounded up is the least number whose product with the denominator reaches the
numerator. -/
theorem ceilDiv_le_iff {a b n : Nat} (h : 0 < b) : ceilDiv a b ≤ n ↔ a ≤ n * b := by
  have hd := Nat.div_add_mod a b
  have hm := Nat.mod_lt a h
  unfold ceilDiv
  split
  · rename_i hz
    rw [← Nat.mul_le_mul_right_iff h, Nat.mul_comm (a / b)]
    omega
  · rename_i hz
    rw [Nat.add_one_le_iff, Nat.div_lt_iff_lt_mul h]
    refine ⟨Nat.le_of_lt, fun hle => Nat.lt_of_le_of_ne hle fun he => hz ?_⟩
    rw [he, Nat.mul_mod_left]

/-- Rounding up adds at most one. -/
theorem ceilDiv_le_div_add_one (a b : Nat) : ceilDiv a b ≤ a / b + 1 := by
  unfold ceilDiv
  split <;> omega

theorem mulDiv_eq_ok_iff {a b denominator n : Nat} :
    mulDiv a b denominator = .ok n ↔
      denominator ≠ 0 ∧ a * b / denominator < wordLimit ∧ a * b / denominator = n := by
  unfold mulDiv
  split <;> rename_i h <;> simp [h, narrow_eq_ok_iff]

theorem mulDivUp_eq_ok_iff {a b denominator n : Nat} :
    mulDivUp a b denominator = .ok n ↔ denominator ≠ 0 ∧
      ceilDiv (a * b) denominator < wordLimit ∧ ceilDiv (a * b) denominator = n := by
  unfold mulDivUp
  split <;> rename_i h <;> simp [h, narrow_eq_ok_iff]

theorem divUp_eq_ok_iff {a b n : Nat} : divUp a b = .ok n ↔ b ≠ 0 ∧ ceilDiv a b = n := by
  unfold divUp
  split <;> rename_i h <;> simp [h]

end Tickwise
