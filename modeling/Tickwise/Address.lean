import Tickwise.Bytes
import Tickwise.Keccak
import Tickwise.Power
import Tickwise.Text.Hex

/-!
# Account and contract addresses

An address is a number of 160 bits, ordered as a number, which is the order of its bytes and
of its lower-case spelling.

* `Address.ofHex?` — reads forty digits of any case, with or without `0x`;
* `Address.hex` — the lower-case spelling;
* `Address.checksummed` — the spelling whose letter case checks the digits.

Bytes and lower-case spellings are read back as the address: `Address.ofBytes_bytes`,
`Address.ofHex?_hex`.
-/

namespace Tickwise

/-- An account or contract on the chain. -/
structure Address where
  toNat : Nat
  isLt : toNat < pow2 160
deriving DecidableEq

namespace Address

/-- The address of a number's lowest 160 bits. -/
def ofNat (n : Nat) : Address := ⟨n % pow2 160, Nat.mod_lt _ (Nat.two_pow_pos 160)⟩

instance : Inhabited Address := ⟨ofNat 0⟩

instance : LT Address := ⟨fun a b => a.toNat < b.toNat⟩

instance (a b : Address) : Decidable (a < b) := inferInstanceAs (Decidable (a.toNat < b.toNat))

/-- The address that stands for the lack of one. -/
def zero : Address := ofNat 0

/-- The twenty bytes, most significant first. -/
def bytes (a : Address) : List UInt8 := Bytes.ofNat 20 a.toNat

/-- The address of twenty bytes. -/
def ofBytes (bytes : List UInt8) : Address := ofNat (Bytes.toNat bytes)

/-! ## Spellings -/

/-- The forty lower-case digits. -/
def digits (a : Address) : List Char := Hex.digits 40 a.toNat

/-- The lower-case spelling. -/
def hex (a : Address) : String := "0x" ++ String.ofList a.digits

/-- Reads forty digits of any case, after an optional `0x`. -/
def ofHex? (text : List Char) : Option Address :=
  let digits := Hex.unmarked text
  if digits.length = 40 then (Hex.ofDigits? digits).map ofNat else none

/-- The digits with a letter in upper case wherever the hash of the lower-case digits has a
digit of eight or more. -/
def checksumDigits (a : Address) : List Char :=
  let hash := Keccak.hash (a.digits.map fun c => UInt8.ofNat c.toNat)
  let nibbles := hash.flatMap fun b => [b.toNat / 16, b.toNat % 16]
  a.digits.zipWith (fun c nibble => if nibble ≥ 8 then c.toUpper else c) nibbles

/-- The checksummed spelling. -/
def checksummed (a : Address) : String := "0x" ++ String.ofList a.checksumDigits

instance : ToString Address := ⟨checksummed⟩

/-! ## Laws -/

theorem eq_of_toNat_eq {a b : Address} (h : a.toNat = b.toNat) : a = b := by
  cases a
  cases b
  cases h
  rfl

@[simp] theorem toNat_ofNat (n : Nat) : (ofNat n).toNat = n % pow2 160 := rfl

@[simp] theorem ofNat_toNat (a : Address) : ofNat a.toNat = a :=
  eq_of_toNat_eq (Nat.mod_eq_of_lt a.isLt)

theorem lt_irrefl (a : Address) : ¬ a < a := Nat.lt_irrefl _

theorem lt_asymm {a b : Address} (h : a < b) : ¬ b < a := Nat.lt_asymm h

/-- Two addresses that are not in order either way are one. -/
theorem eq_of_not_lt {a b : Address} (h : ¬ a < b) (h' : ¬ b < a) : a = b :=
  eq_of_toNat_eq (Nat.le_antisymm (Nat.not_lt.1 h') (Nat.not_lt.1 h))

@[simp] theorem length_bytes (a : Address) : a.bytes.length = 20 := Bytes.length_ofNat _ _

/-- The bytes of an address are read back as it. -/
@[simp] theorem ofBytes_bytes (a : Address) : ofBytes a.bytes = a :=
  eq_of_toNat_eq <| by
    rw [ofBytes, bytes, Bytes.toNat_ofNat, toNat_ofNat, Nat.mod_mod]
    exact Nat.mod_eq_of_lt a.isLt

/-- Twenty bytes are the bytes of their address. -/
theorem bytes_ofBytes {bytes : List UInt8} (h : bytes.length = 20) :
    (ofBytes bytes).bytes = bytes := by
  have hlt : Bytes.toNat bytes < pow2 160 := by simpa only [h] using Bytes.toNat_lt bytes
  rw [ofBytes, Address.bytes, toNat_ofNat, Nat.mod_eq_of_lt hlt, ← h, Bytes.ofNat_toNat]

@[simp] theorem length_addressDigits (a : Address) : a.digits.length = 40 := Hex.length_digits _ _

/-- The lower-case spelling of an address is read back as it. -/
theorem ofHex?_hex (a : Address) : ofHex? a.hex.toList = some a := by
  have hs : Hex.unmarked a.hex.toList = a.digits := Hex.unmarked_toList a.digits
  simp only [ofHex?, hs, length_addressDigits, if_true]
  rw [digits, Hex.ofDigits?_digits, Nat.mod_eq_of_lt a.isLt, Option.map_some, ofNat_toNat]

end Address

end Tickwise
