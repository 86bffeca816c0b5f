import Tickwise.Power

/-!
# Hexadecimal text

Digits in base sixteen, as a fixed number of digits or as many as a number needs, and the
reading of both back. Letters are written in lower case and read in either case.

* `digits` — a number's lowest digits, most significant first;
* `ofDigits?` — the number a run of digits stands for;
* `ofBytes`, `toBytes?` — two digits for each byte.

Reading gives back what was written: `ofDigits?_digits`, `toBytes?_ofBytes`.
-/

namespace Tickwise.Hex

/-! ## Digits -/

/-- The value of a hexadecimal digit of either case. -/
def value? (c : Char) : Option Nat :=
  if '0' ≤ c ∧ c ≤ '9' then some (c.toNat - 48)
  else if 'a' ≤ c ∧ c ≤ 'f' then some (c.toNat - 87)
  else if 'A' ≤ c ∧ c ≤ 'F' then some (c.toNat - 55)
  else none

/-- The `width` lowest digits of a number, most significant first. -/
def digits : (width : Nat) → Nat → List Char
  | 0, _ => []
  | width + 1, n => digits width (n / 16) ++ [Nat.digitChar (n % 16)]

/-- The number a run of digits stands for; the empty run is zero. -/
def ofDigits? (cs : List Char) : Option Nat :=
  cs.foldlM (fun n c => (value? c).map (16 * n + ·)) 0

/-- A number in as many digits as it needs, after `0x`. -/
def minimal (n : Nat) : String := "0x" ++ String.ofList (Nat.toDigits 16 n)

/-- What follows an optional `0x` mark. -/
def unmarked : List Char → List Char
  | '0' :: 'x' :: rest => rest
  | text => text

/-! ## Bytes -/

/-- Two digits for each byte. -/
def ofBytes (bytes : List UInt8) : List Char := bytes.flatMap fun b => digits 2 b.toNat

/-- The bytes that pairs of digits stand for; a digit left over is refused. -/
def toBytes? : List Char → Option (List UInt8)
  | [] => some []
  | [_] => none
  | h :: l :: rest => do
    let high ← value? h
    let low ← value? l
    let bytes ← toBytes? rest
    pure (UInt8.ofNat (16 * high + low) :: bytes)

/-! ## Laws -/

@[simp] theorem length_digits (width n : Nat) : (digits width n).length = width := by
  induction width generalizing n with
  | zero => rfl
  | succ width ih => simp [digits, ih]

/-- A written digit is read back. -/
theorem value?_digitChar {n : Nat} (h : n < 16) : value? (Nat.digitChar n) = some n := by
  have all : ∀ k : Fin 16, value? (Nat.digitChar k) = some k.val := by decide
  exact all ⟨n, h⟩

/-- Digits are read one after another. -/
theorem ofDigits?_append_digit (cs : List Char) (c : Char) :
    ofDigits? (cs ++ [c]) = (ofDigits? cs).bind fun n => (value? c).map (16 * n + ·) := by
  simp [ofDigits?, List.foldlM_append]

/-- One digit more holds sixteen times as many numbers. -/
theorem pow2_digit (width : Nat) : pow2 (4 * (width + 1)) = 16 * pow2 (4 * width) := by
  rw [Nat.mul_add, pow2, pow2, Nat.pow_eq, Nat.pow_eq, Nat.pow_add, Nat.mul_comm]

/-- The digits of a number are read as the number, as far as they reach. -/
theorem ofDigits?_digits (width n : Nat) :
    ofDigits? (digits width n) = some (n % pow2 (4 * width)) := by
  induction width generalizing n with
  | zero => simp [digits, ofDigits?, pow2, Nat.mod_one]
  | succ width ih =>
    rw [digits, ofDigits?_append_digit, ih, pow2_digit, Nat.mod_mul,
      value?_digitChar (Nat.mod_lt _ (by decide))]
    simp [Nat.add_comm]

/-- A mark is passed over. -/
theorem unmarked_toList (text : List Char) :
    unmarked ("0x" ++ String.ofList text).toList = text := by
  have h : "0x".toList = ['0', 'x'] := by decide
  have ht : (String.ofList text).toList = text := String.toList_ofList
  rw [String.toList_append, h, ht]
  rfl

/-- The digits of bytes are read as the bytes. -/
theorem toBytes?_ofBytes (bytes : List UInt8) : toBytes? (ofBytes bytes) = some bytes := by
  induction bytes with
  | nil => rfl
  | cons b rest ih =>
    have hb := b.toNat_lt
    have hd : digits 2 b.toNat =
        [Nat.digitChar (b.toNat / 16 % 16), Nat.digitChar (b.toNat % 16)] := rfl
    have hn : 16 * (b.toNat / 16 % 16) + b.toNat % 16 = b.toNat := by omega
    rw [ofBytes, List.flatMap_cons, hd]
    simp only [List.cons_append, List.nil_append, toBytes?]
    rw [value?_digitChar (Nat.mod_lt _ (by decide)), value?_digitChar (Nat.mod_lt _ (by decide))]
    change (toBytes? (ofBytes rest)).bind
      (fun bytes => some (UInt8.ofNat (16 * (b.toNat / 16 % 16) + b.toNat % 16) :: bytes)) = _
    rw [ih, hn, UInt8.ofNat_toNat, Option.bind_some]

end Tickwise.Hex
