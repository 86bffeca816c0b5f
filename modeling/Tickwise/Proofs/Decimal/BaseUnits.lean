import Tickwise.Proofs.Decimal.Value
import Tickwise.Token

/-!
# Amounts are read exactly

An amount in display units stands for a rational number of base units.  It is read when that is a whole
number that fits, however the amount is written: what an exponent alone decides is either too large for
any digits to make it fit, or too small for any digit of it to be left.

* `Decimal.unitsAt` — the base units that a decimal stands for;
* `Decimal.wordLimit_le_unitsAt`, `Decimal.unitsAt_lt_one` — what the exponent alone decides;
* `Decimal.toUnits_eq_ok_iff` — the decimals that are read, and as what;
* `Decimal.digitCount_le_of_ofText?` — a text has no more digits than characters;
* `Token.parseUnits_exact` — the texts that are read, and as what.
-/

namespace Tickwise

namespace Decimal

/-! ## Base units -/

/-- The base units that a decimal of display units stands for. -/
def unitsAt (decimals : ℕ) (d : Decimal) : ℚ := d.coefficient * 10 ^ ((decimals : ℤ) - d.scale)

section Units

variable {decimals units : ℕ} {d : Decimal}

theorem unitsAt_eq_value_mul (decimals : ℕ) (d : Decimal) :
    d.unitsAt decimals = d.value * 10 ^ decimals := by
  rw [unitsAt, value, mul_assoc, ← zpow_natCast, ← zpow_add₀ (by norm_num), neg_add_eq_sub]

/-- The base units of a decimal depend on its value alone. -/
theorem unitsAt_congr {d' : Decimal} (h : d.value = d'.value) :
    d.unitsAt decimals = d'.unitsAt decimals := by
  rw [unitsAt_eq_value_mul, unitsAt_eq_value_mul, h]

theorem unitsAt_pos (h : 0 < d.coefficient) : 0 < d.unitsAt decimals :=
  mul_pos (by exact_mod_cast h) (ten_zpow_pos _)

/-- A count of base units is not that of a negative decimal. -/
theorem coefficient_nonneg_of_unitsAt_eq (h : d.unitsAt decimals = units) : 0 ≤ d.coefficient := by
  rw [← value_nonneg_iff]
  have hpos : (0 : ℚ) < 10 ^ decimals := by positivity
  have hprod : 0 ≤ d.value * 10 ^ decimals := by
    rw [← unitsAt_eq_value_mul, h]
    exact Nat.cast_nonneg units
  exact nonneg_of_mul_nonneg_left hprod hpos

/-! ## What the exponent decides -/

/-- With as many zeros as an amount has digits no digits fit. -/
theorem wordLimit_le_unitsAt (h : 0 < d.coefficient) (hshift : wordDigits ≤ decimals - d.scale) :
    (wordLimit : ℚ) ≤ d.unitsAt decimals := by
  have hdigit : (1 : ℚ) ≤ d.coefficient := by exact_mod_cast h
  have hpower : (10 : ℚ) ^ (wordDigits : ℤ) ≤ 10 ^ ((decimals : ℤ) - d.scale) :=
    zpow_le_zpow_right₀ (by norm_num) hshift
  calc (wordLimit : ℚ) ≤ 10 ^ (wordDigits : ℤ) := by norm_num [wordLimit, wordDigits]
    _ ≤ 10 ^ ((decimals : ℤ) - d.scale) := hpower
    _ ≤ d.unitsAt decimals := le_mul_of_one_le_left (ten_zpow_pos _).le hdigit

/-- With more places than digits less than one unit is left. -/
theorem unitsAt_lt_one (h : 0 < d.coefficient) (hshift : d.digitCount < -(decimals - d.scale)) :
    d.unitsAt decimals < 1 := by
  have hpower : (10 : ℚ) ^ (d.digitCount - d.scale + decimals) ≤ 10 ^ (0 : ℤ) :=
    zpow_le_zpow_right₀ (by norm_num) (by omega)
  calc d.unitsAt decimals = d.value * 10 ^ decimals := unitsAt_eq_value_mul decimals d
    _ < 10 ^ (d.digitCount - d.scale) * 10 ^ decimals :=
      mul_lt_mul_of_pos_right (value_lt h.le) (by positivity)
    _ = 10 ^ (d.digitCount - d.scale + decimals) := by
      rw [← zpow_natCast, ← zpow_add₀ (by norm_num)]
    _ ≤ 10 ^ (0 : ℤ) := hpower
    _ = 1 := zpow_zero 10

/-- **Nothing is refused by its exponent that could be read.** -/
theorem not_units_of_shift (h : 0 < d.coefficient)
    (hshift : wordDigits ≤ decimals - d.scale ∨ d.digitCount < -(decimals - d.scale))
    (units : ℕ) : ¬ (d.unitsAt decimals = units ∧ units < wordLimit) := by
  rintro ⟨hunits, hword⟩
  rcases hshift with hlarge | hsmall
  · have hle := wordLimit_le_unitsAt h hlarge
    rw [hunits] at hle
    exact absurd hword (not_lt.2 (by exact_mod_cast hle))
  · have hlt := unitsAt_lt_one h hsmall
    have hpos : 0 < d.unitsAt decimals := unitsAt_pos h
    rw [hunits] at hlt hpos
    have hone : units < 1 := by exact_mod_cast hlt
    have hzero : 0 < units := by exact_mod_cast hpos
    omega

/-! ## The power multiplied out -/

theorem unitsAt_of_shift_nonneg (h : 0 ≤ d.coefficient) (hshift : 0 ≤ decimals - d.scale) :
    d.unitsAt decimals = (d.coefficient.natAbs * pow10 (decimals - d.scale).natAbs : ℕ) := by
  obtain ⟨n, hn⟩ := Int.eq_ofNat_of_zero_le hshift
  rw [unitsAt, hn, Int.natAbs_natCast, zpow_natCast, Nat.cast_mul, Nat.cast_natAbs, abs_of_nonneg h,
    cast_pow10]

theorem unitsAt_of_shift_neg (h : 0 ≤ d.coefficient) (hshift : decimals - d.scale < 0) :
    d.unitsAt decimals =
      (d.coefficient.natAbs : ℚ) / (pow10 (decimals - d.scale).natAbs : ℕ) := by
  obtain ⟨n, hn⟩ := Int.eq_ofNat_of_zero_le (by omega : 0 ≤ -(decimals - d.scale))
  have hneg : (decimals : ℤ) - d.scale = -n := by omega
  rw [unitsAt, hneg, Int.natAbs_neg, Int.natAbs_natCast, zpow_neg, zpow_natCast, ← div_eq_mul_inv,
    Nat.cast_natAbs, abs_of_nonneg h, cast_pow10]

/-- A quotient is a whole number when nothing is left over. -/
theorem cast_div_eq_iff {m k n : ℕ} (hk : 0 < k) : (m : ℚ) / k = n ↔ m % k = 0 ∧ m / k = n := by
  have hpos : (k : ℚ) ≠ 0 := by exact_mod_cast hk.ne'
  rw [div_eq_iff hpos]
  constructor
  · intro h
    have hm : m = n * k := by exact_mod_cast h
    rw [hm]
    exact ⟨Nat.mul_mod_left n k, Nat.mul_div_cancel n hk⟩
  · rintro ⟨hrest, rfl⟩
    exact_mod_cast (Nat.div_mul_cancel (Nat.dvd_of_mod_eq_zero hrest)).symm

/-- An exponent that decides alone is refused. -/
theorem toUnits_ne_ok_of_shift (h : 0 < d.coefficient)
    (hshift : wordDigits ≤ decimals - d.scale ∨ d.digitCount < -(decimals - d.scale)) :
    d.toUnits decimals ≠ .ok units := by
  intro hok
  rw [toUnits, if_neg (not_lt.2 h.le), if_neg h.ne'] at hok
  dsimp only at hok
  split at hok
  · cases hok
  rename_i hlarge
  rw [if_pos (hshift.resolve_left hlarge)] at hok
  cases hok

/-- Any other exponent is small enough for its power to be multiplied out. -/
theorem toUnits_of_shift (h : 0 < d.coefficient) (hdigits : d.digitCount < pow2 32)
    (hlarge : ¬ wordDigits ≤ decimals - d.scale) (hsmall : ¬ d.digitCount < -(decimals - d.scale)) :
    d.toUnits decimals =
      let digits := d.coefficient.natAbs
      let power := pow10 (decimals - d.scale).natAbs
      if decimals - d.scale < 0 ∧ digits % power ≠ 0 then .error (.tooManyPlaces decimals)
      else
        let units := if 0 ≤ decimals - d.scale then digits * power else digits / power
        if units < wordLimit then .ok units else .error .tooLarge := by
  have hexponent : ¬ pow2 32 ≤ (decimals - d.scale : ℤ).natAbs := by
    have hpow : pow2 32 = 4294967296 := rfl
    unfold wordDigits at hlarge
    omega
  rw [toUnits, if_neg (not_lt.2 h.le), if_neg h.ne']
  dsimp only
  rw [if_neg hlarge, if_neg hsmall, if_neg hexponent]

/-- A whole number of units is an amount when it fits. -/
theorem fitting_eq_ok_iff {n : ℕ} :
    (if n < wordLimit then .ok n else .error AmountProblem.tooLarge : Except AmountProblem ℕ) =
      .ok units ↔ n = units ∧ units < wordLimit := by
  constructor
  · intro h
    split at h
    · rename_i hfits
      cases h
      exact ⟨rfl, hfits⟩
    · cases h
  · rintro ⟨rfl, hfits⟩
    exact if_pos hfits

/-- **A decimal is read when it stands for a whole number of base units that fits**, and as that
number. -/
theorem toUnits_eq_ok_iff (hdigits : d.digitCount < pow2 32) :
    d.toUnits decimals = .ok units ↔
      0 ≤ d.coefficient ∧ d.unitsAt decimals = units ∧ units < wordLimit := by
  rcases lt_trichotomy d.coefficient 0 with hneg | hzero | hpos
  · rw [toUnits, if_pos hneg]
    constructor
    · intro h
      cases h
    · rintro ⟨hnonneg, -⟩
      exact absurd hneg (not_lt.2 hnonneg)
  · rw [toUnits, hzero, if_neg (lt_irrefl 0), if_pos rfl, unitsAt, hzero, Int.cast_zero, zero_mul]
    constructor
    · intro h
      cases h
      exact ⟨le_rfl, Nat.cast_zero.symm, by decide⟩
    · rintro ⟨-, hunits, -⟩
      have hnone : units = 0 := by exact_mod_cast hunits.symm
      rw [hnone]
  by_cases hshift : wordDigits ≤ decimals - d.scale ∨ d.digitCount < -(decimals - d.scale)
  · -- the exponent decides, on both sides
    constructor
    · intro h
      exact absurd h (toUnits_ne_ok_of_shift hpos hshift)
    · rintro ⟨-, hunits⟩
      exact absurd hunits (not_units_of_shift hpos hshift units)
  obtain ⟨hlarge, hsmall⟩ := not_or.1 hshift
  rw [toUnits_of_shift hpos hdigits hlarge hsmall]
  dsimp only
  by_cases hwhole : 0 ≤ (decimals : ℤ) - d.scale
  · rw [if_neg fun hrest => not_lt.2 hwhole hrest.1, if_pos hwhole,
      unitsAt_of_shift_nonneg hpos.le hwhole, Nat.cast_inj, fitting_eq_ok_iff]
    exact (and_iff_right hpos.le).symm
  · have hfraction : (decimals : ℤ) - d.scale < 0 := not_le.1 hwhole
    have hpower : 0 < pow10 (decimals - d.scale : ℤ).natAbs := Nat.pow_pos (by norm_num)
    rw [if_neg hwhole, unitsAt_of_shift_neg hpos.le hfraction, cast_div_eq_iff hpower]
    by_cases hrest : d.coefficient.natAbs % pow10 (decimals - d.scale : ℤ).natAbs = 0
    · rw [if_neg fun h => h.2 hrest, fitting_eq_ok_iff, and_iff_right hpos.le, and_iff_right hrest]
    · rw [if_pos ⟨hfraction, hrest⟩]
      constructor
      · intro h
        cases h
      · rintro ⟨-, ⟨hzero, -⟩, -⟩
        exact absurd hzero hrest

end Units

/-! ## The digits of a text -/

section Digits

variable {text : List Char} {n : ℕ}

theorem ofDigitChars_lt (h : ∀ c ∈ text, c.isDigit = true) (start : ℕ) :
    Nat.ofDigitChars 10 text start < (start + 1) * 10 ^ text.length := by
  induction text generalizing start with
  | nil => simp [Nat.ofDigitChars]
  | cons c rest ih =>
    have hdigit : c.toNat - '0'.toNat ≤ 9 := by
      have hc := h c (by simp)
      simp only [Char.isDigit, Bool.and_eq_true, decide_eq_true_eq] at hc
      have hle : c.toNat ≤ 57 := hc.2
      show c.toNat - 48 ≤ 9
      omega
    have hrest : ∀ c ∈ rest, c.isDigit = true := fun c hc => h c (List.mem_cons_of_mem _ hc)
    rw [Nat.ofDigitChars_cons, List.length_cons]
    calc Nat.ofDigitChars 10 rest (10 * start + (c.toNat - '0'.toNat))
        < (10 * start + (c.toNat - '0'.toNat) + 1) * 10 ^ rest.length := ih hrest _
      _ ≤ (10 * (start + 1)) * 10 ^ rest.length := Nat.mul_le_mul_right _ (by omega)
      _ = (start + 1) * 10 ^ (rest.length + 1) := by ring

/-- A run of digits has at most as many digits as characters. -/
theorem digitCount_ofDigitChars_le (hne : text ≠ []) (h : ∀ c ∈ text, c.isDigit = true) :
    Tickwise.digitCount (Nat.ofDigitChars 10 text 0) ≤ text.length := by
  rw [digitCount_le_iff (List.length_pos_iff.2 hne)]
  simpa using ofDigitChars_lt h 0

/-- Underscores between the digits only make the text longer. -/
theorem digitCount_le_of_grouped? (h : grouped? text = some n) :
    Tickwise.digitCount n ≤ text.length := by
  unfold grouped? at h
  split at h
  · rename_i hgrouped
    obtain ⟨hne, hhead, hall⟩ := hgrouped
    cases h
    have hdigits : ∀ c ∈ text.filter (· ≠ '_'), c.isDigit = true := by
      intro c hc
      obtain ⟨hmem, hother⟩ := List.mem_filter.1 hc
      have hgroup := List.all_eq_true.1 hall c hmem
      simpa [of_decide_eq_true hother] using hgroup
    have hsome : text.filter (· ≠ '_') ≠ [] := by
      obtain ⟨c, rest, rfl⟩ := List.exists_cons_of_ne_nil hne
      have hc : c ≠ '_' := by simpa using hhead
      simp [hc]
    exact (digitCount_ofDigitChars_le hsome hdigits).trans (List.length_filter_le _ _)
  · cases h

/-- A sign leaves the number of a run of digits as it is. -/
theorem grouped?_of_map {sign : ℤ → ℤ} {c : ℤ} (hsign : ∀ m : ℕ, (sign m).natAbs = m)
    (h : ((grouped? text).bind fun m => some (m : ℤ)).map sign = some c) :
    grouped? text = some c.natAbs := by
  obtain ⟨m, hm, rfl⟩ := Option.map_eq_some_iff.1 h
  obtain ⟨digits, hdigits, hcast⟩ := Option.bind_eq_some_iff.1 hm
  obtain rfl : (digits : ℤ) = m := Option.some.inj hcast
  rw [hdigits, hsign]

/-- A coefficient is a run of digits behind its sign. -/
theorem exists_grouped?_of_coefficient? {c : ℤ} (h : coefficient? text = some c) :
    ∃ digits, digits <:+ text ∧ grouped? digits = some c.natAbs := by
  unfold coefficient? at h
  split at h
  · have hneg : ∀ m : ℕ, (-(m : ℤ)).natAbs = m := fun m => by simp
    exact ⟨_, List.suffix_cons _ _, grouped?_of_map hneg h⟩
  · exact ⟨_, List.suffix_cons _ _, grouped?_of_map Int.natAbs_natCast h⟩
  · exact ⟨text, List.suffix_rfl, grouped?_of_map Int.natAbs_natCast h⟩

theorem length_splitPoint_le (base : List Char) : (splitPoint base).1.length ≤ base.length := by
  have hsplit := congrArg List.length (List.takeWhile_append_dropWhile (p := (· ≠ '.')) (l := base))
  simp only [splitPoint, List.length_append, List.length_drop] at hsplit ⊢
  omega

/-- A decimal that is read has the coefficient of its base. -/
theorem coefficient?_of_ofText? {d : Decimal} (h : ofText? text = some d) :
    coefficient? (splitPoint (text.takeWhile (!isExponentMark ·))).1 = some d.coefficient := by
  have hscaled : ∀ (digits : List Char) (scale : ℤ),
      (if FitsSigned 64 scale then (coefficient? digits).map fun c => (⟨c, scale⟩ : Decimal)
        else none) = some d → coefficient? digits = some d.coefficient := by
    intro digits scale h
    split at h
    · obtain ⟨c, hc, rfl⟩ := Option.map_eq_some_iff.1 h
      exact hc
    · cases h
  unfold ofText? at h
  dsimp only at h
  split at h
  · obtain ⟨exponent, -, hread⟩ := Option.bind_eq_some_iff.1 h
    exact hscaled _ _ hread
  · obtain ⟨exponent, -, hread⟩ := Option.bind_eq_some_iff.1 h
    exact hscaled _ _ hread

/-- **A text has no more digits than characters.** -/
theorem digitCount_le_of_ofText? {d : Decimal} (h : ofText? text = some d) :
    d.digitCount ≤ text.length := by
  obtain ⟨digits, hsuffix, hdigits⟩ :=
    exists_grouped?_of_coefficient? (coefficient?_of_ofText? h)
  calc d.digitCount ≤ digits.length := digitCount_le_of_grouped? hdigits
    _ ≤ (splitPoint (text.takeWhile (!isExponentMark ·))).1.length := hsuffix.length_le
    _ ≤ (text.takeWhile (!isExponentMark ·)).length := length_splitPoint_le _
    _ ≤ text.length := (List.takeWhile_sublist _).length_le

end Digits

end Decimal

/-! ## Texts -/

theorem Text.length_trim_le (text : List Char) : (trim text).length ≤ text.length := by
  rw [trim, trimEnd, trimStart, List.length_reverse]
  calc ((text.dropWhile isBlank).reverse.dropWhile isBlank).length
      ≤ (text.dropWhile isBlank).reverse.length := List.length_dropWhile_le _ _
    _ = (text.dropWhile isBlank).length := List.length_reverse
    _ ≤ text.length := List.length_dropWhile_le _ _

namespace Token

variable {token : Token} {amount : String} {units : ℕ} {d : Decimal}

theorem parseUnits_of_none (h : Decimal.ofText? (Text.trim amount.toList) = none) :
    token.parseUnits amount = .error (.invalidAmount amount token.symbol .notDecimal) := by
  rw [parseUnits, h]
  rfl

theorem parseUnits_of_some (h : Decimal.ofText? (Text.trim amount.toList) = some d) :
    token.parseUnits amount =
      (d.toUnits token.decimals).mapError (.invalidAmount amount token.symbol) := by
  rw [parseUnits, h]

/-- An amount that cannot be read is refused as such. -/
theorem parseUnits_eq_error {fault : Fault} (h : token.parseUnits amount = .error fault) :
    ∃ problem, fault = .invalidAmount amount token.symbol problem := by
  cases hread : Decimal.ofText? (Text.trim amount.toList) with
  | none =>
    rw [parseUnits_of_none hread] at h
    cases h
    exact ⟨.notDecimal, rfl⟩
  | some d =>
    rw [parseUnits_of_some hread] at h
    cases hunits : d.toUnits token.decimals with
    | error problem =>
      rw [hunits] at h
      cases h
      exact ⟨problem, rfl⟩
    | ok units =>
      rw [hunits] at h
      cases h

/-- An amount is read as the units of its decimal. -/
theorem parseUnits_eq_ok_iff_toUnits : token.parseUnits amount = .ok units ↔
    ∃ d, Decimal.ofText? (Text.trim amount.toList) = some d ∧ d.toUnits token.decimals = .ok units := by
  constructor
  · intro h
    cases hread : Decimal.ofText? (Text.trim amount.toList) with
    | none =>
      rw [parseUnits_of_none hread] at h
      cases h
    | some d =>
      rw [parseUnits_of_some hread] at h
      cases hunits : d.toUnits token.decimals with
      | error problem =>
        rw [hunits] at h
        cases h
      | ok found =>
        rw [hunits] at h
        cases h
        exact ⟨d, rfl, hunits⟩
  · rintro ⟨d, hread, hunits⟩
    rw [parseUnits_of_some hread, hunits]
    rfl

/-- The decimal of a text has few enough digits for its power to be multiplied out. -/
theorem digitCount_lt (hlength : amount.length < 2 ^ 31)
    (h : Decimal.ofText? (Text.trim amount.toList) = some d) : d.digitCount < pow2 32 :=
  calc d.digitCount ≤ (Text.trim amount.toList).length := Decimal.digitCount_le_of_ofText? h
    _ ≤ amount.toList.length := Text.length_trim_le _
    _ = amount.length := String.length_toList
    _ < 2 ^ 31 := hlength
    _ < pow2 32 := by decide

theorem parseUnits_eq_ok_iff (hlength : amount.length < 2 ^ 31) :
    token.parseUnits amount = .ok units ↔
      ∃ d, Decimal.ofText? (Text.trim amount.toList) = some d ∧ 0 ≤ d.coefficient ∧
        d.unitsAt token.decimals = units ∧ units < wordLimit := by
  rw [parseUnits_eq_ok_iff_toUnits]
  constructor
  · rintro ⟨d, hd, hunits⟩
    exact ⟨d, hd, (Decimal.toUnits_eq_ok_iff (digitCount_lt hlength hd)).1 hunits⟩
  · rintro ⟨d, hd, hunits⟩
    exact ⟨d, hd, (Decimal.toUnits_eq_ok_iff (digitCount_lt hlength hd)).2 hunits⟩

/-- Texts of one value are read alike. -/
theorem parseUnits_congr {other : String} {d' : Decimal} (hlength : amount.length < 2 ^ 31)
    (hother : other.length < 2 ^ 31) (hd : Decimal.ofText? (Text.trim amount.toList) = some d)
    (hd' : Decimal.ofText? (Text.trim other.toList) = some d') (hvalue : d.value = d'.value)
    (h : token.parseUnits amount = .ok units) : token.parseUnits other = .ok units := by
  obtain ⟨read, hread, hnonneg, hunits, hword⟩ := (parseUnits_eq_ok_iff hlength).1 h
  cases hd.symm.trans hread
  rw [Decimal.unitsAt_congr hvalue] at hunits
  have hnonneg' : 0 ≤ d'.coefficient := Decimal.coefficient_nonneg_of_unitsAt_eq hunits
  exact (parseUnits_eq_ok_iff hother).2 ⟨d', hd', hnonneg', hunits, hword⟩

/-- **An amount is read exactly, or refused as one.**  It is read when its text without the blanks
around it is a decimal that is not negative and stands for a whole number of base units of 256 bits.
No such decimal is refused by its exponent, and two texts of one value are read alike. -/
theorem parseUnits_exact (token : Token) {amount : String} (hlength : amount.length < 2 ^ 31) :
    (∀ units, token.parseUnits amount = .ok units ↔
      ∃ d, Decimal.ofText? (Text.trim amount.toList) = some d ∧ 0 ≤ d.coefficient ∧
        (d.coefficient : ℚ) * 10 ^ ((token.decimals : ℤ) - d.scale) = units ∧
        units < wordLimit) ∧
    ((∃ units, token.parseUnits amount = .ok units) ∨
      ∃ problem, token.parseUnits amount = .error (.invalidAmount amount token.symbol problem)) ∧
    (∀ d, Decimal.ofText? (Text.trim amount.toList) = some d → 0 < d.coefficient →
      (78 ≤ token.decimals - d.scale ∨ d.digitCount < -(token.decimals - d.scale)) →
      ∀ units : ℕ, ¬ ((d.coefficient : ℚ) * 10 ^ ((token.decimals : ℤ) - d.scale) = units ∧
        units < wordLimit)) ∧
    ∀ (other : String) (d d' : Decimal), other.length < 2 ^ 31 →
      Decimal.ofText? (Text.trim amount.toList) = some d →
      Decimal.ofText? (Text.trim other.toList) = some d' → d.value = d'.value →
      ∀ units, token.parseUnits amount = .ok units ↔ token.parseUnits other = .ok units := by
  refine ⟨fun units => parseUnits_eq_ok_iff hlength, ?_, ?_, ?_⟩
  · cases hparse : token.parseUnits amount with
    | ok units => exact .inl ⟨units, rfl⟩
    | error fault =>
      obtain ⟨problem, rfl⟩ := parseUnits_eq_error hparse
      exact .inr ⟨problem, rfl⟩
  · intro d _ hpos hshift
    exact Decimal.not_units_of_shift hpos hshift
  · intro other d d' hother hd hd' hvalue units
    constructor
    · exact parseUnits_congr hlength hother hd hd' hvalue
    · exact parseUnits_congr hother hlength hd' hd hvalue.symm

/-- One base unit, in digits that make up for the places that are missing and in plain notation. -/
theorem parseUnits_exact_of_one_unit :
    " 100000000e-14 ".length < 2 ^ 31 ∧ "0.000_001".length < 2 ^ 31 ∧
      (⟨.ofNat 0xBB, 6, "USDC", "USDC"⟩ : Token).parseUnits " 100000000e-14 " = .ok 1 ∧
      (⟨.ofNat 0xBB, 6, "USDC", "USDC"⟩ : Token).parseUnits "0.000_001" = .ok 1 := by
  have hlength : " 100000000e-14 ".length < 2 ^ 31 := by decide
  have hother : "0.000_001".length < 2 ^ 31 := by decide
  have hread : Decimal.ofText? (Text.trim " 100000000e-14 ".toList) = some ⟨100000000, 14⟩ := by
    decide +kernel
  have hread' : Decimal.ofText? (Text.trim "0.000_001".toList) = some ⟨1, 6⟩ := by
    decide +kernel
  have hvalue : Decimal.value ⟨100000000, 14⟩ = Decimal.value ⟨1, 6⟩ := by norm_num [Decimal.value]
  have hunits : ((100000000 : ℤ) : ℚ) * 10 ^ ((6 : ℤ) - 14) = (1 : ℕ) := by norm_num
  obtain ⟨hexact, -, -, hsame⟩ :=
    parseUnits_exact ⟨.ofNat 0xBB, 6, "USDC", "USDC"⟩ hlength
  have hok := (hexact 1).2 ⟨_, hread, by decide, hunits, by decide⟩
  exact ⟨hlength, hother, hok, (hsame _ _ _ hother hread hread' hvalue 1).1 hok⟩

end Token

end Tickwise
