import Tickwise.Fault

/-!
# Fee tiers

The fees a pool can have, in hundredths of a basis point, each with the tick spacing that the
factory gives its pools.

* `FeeTier.ofFee` — the tier of a fee, with `FeeTier.ofFee_eq_ok_iff` for when there is one.
-/

namespace Tickwise

/-- A fee tier. -/
inductive FeeTier where
  /-- 0.01 % -/
  | lowest
  /-- 0.05 % -/
  | low
  /-- 0.3 % -/
  | medium
  /-- 1 % -/
  | high
deriving DecidableEq

namespace FeeTier

/-- All tiers, ascending. -/
def all : List FeeTier := [lowest, low, medium, high]

/-- The fee in hundredths of a basis point. -/
def fee : FeeTier → Nat
  | lowest => 100
  | low => 500
  | medium => 3000
  | high => 10000

/-- The tick spacing of the tier's pools. -/
def tickSpacing : FeeTier → Int
  | lowest => 1
  | low => 10
  | medium => 60
  | high => 200

/-- The tier of a fee. -/
def ofFee (fee : Nat) : Except Fault FeeTier :=
  match all.find? fun tier => tier.fee == fee with
  | some tier => .ok tier
  | none => .error (.unsupportedFee fee)

/-- The fee as three bytes, most significant first. -/
def bytes (tier : FeeTier) : List UInt8 := Bytes.ofNat 3 tier.fee

instance : ToString FeeTier := ⟨fun tier => toString tier.fee⟩

/-! ## Laws -/

theorem mem_all (tier : FeeTier) : tier ∈ all := by cases tier <;> decide

@[simp] theorem ofFee_fee (tier : FeeTier) : ofFee tier.fee = .ok tier := by cases tier <;> rfl

/-- A tier is found by its fee only. -/
theorem ofFee_eq_ok_iff {fee : Nat} {tier : FeeTier} : ofFee fee = .ok tier ↔ tier.fee = fee := by
  refine ⟨fun h => ?_, fun h => h ▸ ofFee_fee tier⟩
  unfold ofFee at h
  split at h
  · rename_i found hf
    cases h
    simpa using List.find?_some hf
  · cases h

/-- A fee without a tier is refused by name. -/
theorem ofFee_eq_error_iff {fee : Nat} {fault : Fault} :
    ofFee fee = .error fault ↔
      (∀ tier : FeeTier, tier.fee ≠ fee) ∧ fault = .unsupportedFee fee := by
  unfold ofFee
  split
  · rename_i tier hf
    have he : tier.fee = fee := by simpa using List.find?_some hf
    exact ⟨nofun, fun h => absurd he (h.1 tier)⟩
  · rename_i hf
    have hn : ∀ tier : FeeTier, tier.fee ≠ fee := fun tier => by
      simpa using List.find?_eq_none.1 hf tier (mem_all tier)
    simp [hn, eq_comm]

/-- Fees fit in their three bytes. -/
theorem fee_lt (tier : FeeTier) : tier.fee < pow2 24 := by cases tier <;> decide

@[simp] theorem length_bytes (tier : FeeTier) : tier.bytes.length = 3 := Bytes.length_ofNat _ _

/-- The bytes of a tier stand for its fee. -/
theorem toNat_bytes (tier : FeeTier) : Bytes.toNat tier.bytes = tier.fee := by
  rw [bytes, Bytes.toNat_ofNat, Nat.mod_eq_of_lt tier.fee_lt]

end FeeTier

end Tickwise
