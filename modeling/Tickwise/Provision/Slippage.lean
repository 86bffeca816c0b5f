import Tickwise.Fixed
import Tickwise.Json.Schema

/-!
# Slippage

How much less than the desired amounts a mint may take.

* `Slippage.minimum` — the least amount for a desired one, and never more (`minimum_le`);
* `Slippage.ofJson?` — reads `unprotected`, or `tolerance` with its basis points.
-/

namespace Tickwise

/-- The least amounts of a mint. -/
inductive Slippage where
  /-- Any amount will do. -/
  | unprotected
  /-- At most `bps` hundredths of a percent less than desired. -/
  | tolerance (bps : Nat)
deriving DecidableEq

namespace Slippage

/-- The whole in basis points. -/
def whole : Nat := 10000

/-- A tolerance must not exceed the whole. -/
def validate : Slippage → Except Fault Unit
  | tolerance bps => if whole < bps then .error (.invalidSlippage bps) else .ok ()
  | unprotected => .ok ()

/-- The least amount that a mint must take of a desired one, rounded down. -/
def minimum (slippage : Slippage) (desired : Nat) : Except Fault Nat := do
  slippage.validate
  match slippage with
  | unprotected => return 0
  | tolerance bps => mulDiv desired (whole - bps) whole

theorem validate_tolerance_eq_ok_iff {bps : Nat} :
    (tolerance bps).validate = .ok () ↔ bps ≤ whole := by
  change (if whole < bps then _ else _) = _ ↔ _
  split <;> rename_i h
  · simp [Nat.not_le.2 h]
  · simp [Nat.not_lt.1 h]

/-- No share of an amount exceeds it. -/
theorem share_le (desired bps : Nat) : desired * (whole - bps) / whole ≤ desired := by
  apply Nat.div_le_of_le_mul
  rw [Nat.mul_comm]
  exact Nat.mul_le_mul_right _ (Nat.sub_le _ _)

/-- No minimum exceeds the desired amount. -/
theorem minimum_le {slippage : Slippage} {desired n : Nat}
    (h : slippage.minimum desired = .ok n) : n ≤ desired := by
  unfold minimum at h
  cases hv : slippage.validate with
  | error fault => simp [hv, bind, Except.bind] at h
  | ok u =>
    simp only [hv, bind, Except.bind] at h
    cases slippage with
    | unprotected =>
      cases h
      exact Nat.zero_le _
    | tolerance bps =>
      obtain ⟨_, _, rfl⟩ := mulDiv_eq_ok_iff.1 h
      exact share_le desired bps

/-! ## JSON -/

/-- The kind, and the tolerance where there is one. -/
def toJson : Slippage → Json
  | unprotected => .record [("kind", .ofString "unprotected")]
  | tolerance bps => .record [("kind", .ofString "tolerance"), ("bps", .ofNat bps)]

/-- The depth to which arrays and objects may nest. -/
def depthLimit : Nat := 127

/-- Reads a policy by its kind, from an object or from an array that begins with the kind. The
whole value is looked at before the kind is known, so it must be sound, and with the `enclosing`
levels around it not too deep. -/
def ofJson? (enclosing : Nat) (json : Json) : Option Slippage :=
  if json.isSound ∧ enclosing + json.depth ≤ depthLimit then
    match json with
    | .object fields => do
      match ← (← Json.only? fields "kind").toText? with
      | "unprotected" => pure unprotected
      | "tolerance" => ((← Json.only? fields "bps").toNat? (pow2 32)).map tolerance
      | _ => none
    | .array [kind] => if kind.toText? = some "unprotected" then some unprotected else none
    | .array [kind, bps] =>
      if kind.toText? = some "tolerance" then (bps.toNat? (pow2 32)).map tolerance else none
    | _ => none
  else none

end Slippage

end Tickwise
