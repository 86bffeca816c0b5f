import Tickwise.Power

/-!
# Big-endian byte strings

A number as a fixed count of bytes, most significant first, and the number a byte string
stands for.

* `Bytes.toNat_ofNat` — the bytes of a number stand for it, as far as they reach;
* `Bytes.ofNat_toNat` — a byte string is the bytes of its number.
-/

namespace Tickwise.Bytes

/-- The `width` lowest bytes of a number, most significant first. -/
def ofNat : (width : Nat) → Nat → List UInt8
  | 0, _ => []
  | width + 1, n => ofNat width (n / 256) ++ [UInt8.ofNat (n % 256)]

/-- The number that a byte string stands for. -/
def toNat (bytes : List UInt8) : Nat := bytes.foldl (fun n b => 256 * n + b.toNat) 0

/-! ## Laws -/

@[simp] theorem length_ofNat (width n : Nat) : (ofNat width n).length = width := by
  induction width generalizing n with
  | zero => rfl
  | succ width ih => simp [ofNat, ih]

@[simp] theorem toNat_nil : toNat [] = 0 := rfl

/-- A last byte shifts what stands before it. -/
theorem toNat_append_byte (bytes : List UInt8) (b : UInt8) :
    toNat (bytes ++ [b]) = 256 * toNat bytes + b.toNat := by
  simp [toNat]

/-- One byte more holds 256 times as many numbers. -/
theorem pow2_byte (width : Nat) : pow2 (8 * (width + 1)) = 256 * pow2 (8 * width) := by
  rw [Nat.mul_add, pow2, pow2, Nat.pow_eq, Nat.pow_eq, Nat.pow_add, Nat.mul_comm]

/-- The bytes of a number stand for the number, as far as they reach. -/
theorem toNat_ofNat (width n : Nat) : toNat (ofNat width n) = n % pow2 (8 * width) := by
  induction width generalizing n with
  | zero => simp [ofNat, pow2, Nat.mod_one]
  | succ width ih =>
    rw [ofNat, toNat_append_byte, ih, pow2_byte, Nat.mod_mul, Nat.add_comm]
    simp

/-- Bytes that follow a number make it at most one step longer in their size. -/
theorem foldl_lt (bytes : List UInt8) (n : Nat) :
    bytes.foldl (fun n b => 256 * n + b.toNat) n < (n + 1) * pow2 (8 * bytes.length) := by
  induction bytes generalizing n with
  | nil => simp [pow2]
  | cons b rest ih =>
    have hb := b.toNat_lt
    refine Nat.lt_of_lt_of_le (ih (256 * n + b.toNat)) ?_
    rw [List.length_cons, pow2_byte, ← Nat.mul_assoc]
    exact Nat.mul_le_mul_right _ (by omega)

/-- A byte string stands for a number of its size. -/
theorem toNat_lt (bytes : List UInt8) : toNat bytes < pow2 (8 * bytes.length) := by
  simpa [toNat] using foldl_lt bytes 0

/-- A byte string is the bytes of its number. -/
theorem ofNat_toNat (bytes : List UInt8) : ofNat bytes.length (toNat bytes) = bytes := by
  obtain ⟨rev, rfl⟩ : ∃ rev : List UInt8, rev.reverse = bytes := ⟨bytes.reverse, by simp⟩
  induction rev with
  | nil => rfl
  | cons b rest ih =>
    have hb := b.toNat_lt
    have hq : (256 * toNat rest.reverse + b.toNat) / 256 = toNat rest.reverse := by omega
    have hr : (256 * toNat rest.reverse + b.toNat) % 256 = b.toNat := by omega
    rw [List.reverse_cons, toNat_append_byte, List.length_append, List.length_singleton, ofNat,
      hq, hr, ih, UInt8.ofNat_toNat]

end Tickwise.Bytes
