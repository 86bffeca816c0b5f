import Tickwise.Pair
import Tickwise.Proofs.Address.Order

/-!
# The canonical order of a pair

Two different tokens make one pair, in whichever order they are given and however they are
spelled.  Its first token is the one whose digits come first, each token keeps what is attached to
it, and a token is found at its place and nowhere else.

* `OrderedPair.sideOf_eq_ok_iff`, `OrderedPair.sideOf_eq_error_iff` — the place of a token;
* `OrderedPair.Arranges` — what the pair of two tokens is;
* `OrderedPair.of_eq_ok_iff`, `OrderedPair.of_eq_error_iff` — when there is one;
* `OrderedPair.ofTexts?` — the pair of two tokens that are spelled;
* `OrderedPair.canonical_order` — all of it together.
-/

namespace Tickwise

namespace OrderedPair

variable {α : Type}

/-! ## Places -/

section Places

variable (pair : OrderedPair α)

/-- A token is at the place where its address stands. -/
theorem sideOf_eq_ok_iff {token : Address} {side : Side} :
    pair.sideOf token = .ok side ↔ (pair.side side).address = token := by
  constructor
  · intro h
    unfold sideOf at h
    split at h
    · rename_i hfirst
      cases h
      exact hfirst
    · split at h
      · rename_i hsecond
        cases h
        exact hsecond
      · cases h
  · rintro rfl
    cases side with
    | first => exact sideOf_first pair
    | second => exact sideOf_second pair

/-- A token without a place is refused with the pair that it is not in. -/
theorem sideOf_eq_error_iff {token : Address} {fault : Fault} :
    pair.sideOf token = .error fault ↔
      token ≠ pair.first.address ∧ token ≠ pair.second.address ∧
        fault = .tokenNotInPair token pair.first.address pair.second.address := by
  unfold sideOf
  split
  · rename_i hfirst
    simp [hfirst]
  · rename_i hfirst
    split
    · rename_i hsecond
      simp [hsecond]
    · rename_i hsecond
      simp [Ne.symm hfirst, Ne.symm hsecond, eq_comm]

end Places

/-! ## Pairs -/

variable {a b : Address} {x y : α}

/-- A pair holds two tokens, each with what is attached to it. -/
structure Arranges (pair : OrderedPair α) (a : Address) (x : α) (b : Address) (y : α) : Prop where
  /-- The bytes of the first token come before those of the second. -/
  bytes_lt : pair.first.address.bytes < pair.second.address.bytes
  /-- So do the lower-case digits. -/
  digits_lt : String.ofList pair.first.address.digits < String.ofList pair.second.address.digits
  /-- Either token may be the first, and each keeps what is attached to it. -/
  keeps : pair.first = ⟨a, x⟩ ∧ pair.second = ⟨b, y⟩ ∧ pair.payloads = (x, y) ∨
    pair.first = ⟨b, y⟩ ∧ pair.second = ⟨a, x⟩ ∧ pair.payloads = (y, x)

theorem arranges_of_lt (h : a < b) : Arranges ⟨⟨a, x⟩, ⟨b, y⟩, h⟩ a x b y :=
  ⟨Address.bytes_lt_iff.2 h, Address.digitText_lt_iff.2 h, .inl ⟨rfl, rfl, rfl⟩⟩

theorem arranges_of_gt (h : b < a) : Arranges ⟨⟨b, y⟩, ⟨a, x⟩, h⟩ a x b y :=
  ⟨Address.bytes_lt_iff.2 h, Address.digitText_lt_iff.2 h, .inr ⟨rfl, rfl, rfl⟩⟩

theorem exists_of_of_ne (h : a ≠ b) : ∃ pair, of a x b y = .ok pair ∧ pair.Arranges a x b y := by
  by_cases hlt : a < b
  · exact ⟨_, of_of_lt hlt x y, arranges_of_lt hlt⟩
  · have hgt : b < a := by
      by_contra hnot
      exact h (Address.eq_of_not_lt hlt hnot)
    exact ⟨_, of_of_gt hgt x y, arranges_of_gt hgt⟩

theorem of_eq_error_iff {fault : Fault} :
    of a x b y = .error fault ↔ a = b ∧ fault = .identicalTokens a := by
  by_cases hab : a = b
  · subst hab
    simp [of_self, eq_comm]
  · obtain ⟨pair, hpair, -⟩ := exists_of_of_ne (x := x) (y := y) hab
    simp [hpair, hab]

/-- The pair of two tokens that are spelled, if both texts can be read. -/
def ofTexts? (textA : List Char) (x : α) (textB : List Char) (y : α) :
    Option (Except Fault (OrderedPair α)) := do
  let a ← Address.ofHex? textA
  let b ← Address.ofHex? textB
  pure (of a x b y)

theorem ofTexts?_of_spelledBy {textA textB : List Char} (ha : a.SpelledBy textA)
    (hb : b.SpelledBy textB) : ofTexts? textA x textB y = some (of a x b y) := by
  rw [ofTexts?, Address.ofHex?_eq_some_iff.2 ha, Address.ofHex?_eq_some_iff.2 hb]
  rfl

/-- **The canonical order of a pair.**  The order in which two tokens are given does not matter;
they are refused exactly when they are the same; otherwise the first token of the pair is the one
whose bytes, and whose lower-case digits, come first, each token keeps what is attached to it and
is found at its place, every other token is refused, and any spelling of the two tokens makes the
same pair. -/
theorem canonical_order (a b : Address) (x y : α) :
    of a x b y = of b y a x ∧
    (∀ fault, of a x b y = .error fault ↔ a = b ∧ fault = .identicalTokens a) ∧
    (a ≠ b → ∃ pair, of a x b y = .ok pair ∧ pair.Arranges a x b y ∧
      (∀ token side, pair.sideOf token = .ok side ↔ (pair.side side).address = token) ∧
      (∀ token, token ≠ a → token ≠ b → pair.sideOf token =
        .error (.tokenNotInPair token pair.first.address pair.second.address))) ∧
    (∀ textA textB, a.SpelledBy textA → b.SpelledBy textB →
      ofTexts? textA x textB y = some (of a x b y)) := by
  refine ⟨of_comm a b x y, fun fault => of_eq_error_iff, ?pair, ?spelled⟩
  case pair =>
    intro hne
    obtain ⟨pair, hpair, harranges⟩ := exists_of_of_ne (x := x) (y := y) hne
    refine ⟨pair, hpair, harranges, fun token side => pair.sideOf_eq_ok_iff, ?_⟩
    intro token hta htb
    rw [sideOf_eq_error_iff]
    rcases harranges.keeps with ⟨hfirst, hsecond, -⟩ | ⟨hfirst, hsecond, -⟩
    · rw [hfirst, hsecond]
      exact ⟨hta, htb, rfl⟩
    · rw [hfirst, hsecond]
      exact ⟨htb, hta, rfl⟩
  case spelled =>
    intro textA textB ha hb
    exact ofTexts?_of_spelledBy ha hb

/-- Two tokens in mixed case, the second one given first: an upper-case letter comes before every
lower-case one, so the order of the texts as they stand would be the other. -/
theorem canonical_order_of_mixed_case :
    let low := Address.ofNat 0xabcd000000000000000000000000000000000001
    let high := Address.ofNat 0xabce000000000000000000000000000000000000
    high ≠ low ∧ low.SpelledBy "0xaBcD000000000000000000000000000000000001".toList ∧
      high.SpelledBy "ABCE000000000000000000000000000000000000".toList ∧
      ofTexts? "ABCE000000000000000000000000000000000000".toList "high"
        "0xaBcD000000000000000000000000000000000001".toList "low" = some (of high "high" low "low") ∧
      ∃ pair, of high "high" low "low" = .ok pair ∧ pair.Arranges high "high" low "low" ∧
        pair.sideOf Address.zero =
          .error (.tokenNotInPair Address.zero pair.first.address pair.second.address) := by
  intro low high
  have hne : high ≠ low := by decide
  have hlow : low.SpelledBy "0xaBcD000000000000000000000000000000000001".toList := by decide
  have hhigh : high.SpelledBy "ABCE000000000000000000000000000000000000".toList := by decide
  obtain ⟨-, -, hpair, hspelled⟩ := canonical_order high low "high" "low"
  obtain ⟨pair, hof, harranges, -, hother⟩ := hpair hne
  exact ⟨hne, hlow, hhigh, hspelled _ _ hhigh hlow, pair, hof, harranges,
    hother _ (by decide) (by decide)⟩

end OrderedPair

end Tickwise
