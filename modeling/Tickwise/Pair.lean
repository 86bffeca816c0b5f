import Tickwise.Fault

/-!
# Ordered pairs of tokens

The factory takes the tokens of a pool by ascending address. An ordered pair holds two tokens
that way, each with whatever the caller attached to it.

* `OrderedPair.of` — sorts two tokens, in whichever order they are given;
* `OrderedPair.sideOf` — where a token stands.
-/

namespace Tickwise

/-- A place in a pair. -/
inductive Side where
  | first
  | second
deriving DecidableEq

/-- A token of a pair with what is attached to it. -/
structure PairSide (α : Type) where
  address : Address
  payload : α
deriving DecidableEq

/-- Two tokens by ascending address. -/
structure OrderedPair (α : Type) where
  first : PairSide α
  second : PairSide α
  sorted : first.address < second.address
deriving DecidableEq

namespace OrderedPair

variable {α : Type}

/-- The pair of two tokens, in whichever order they are given. -/
def of (addressA : Address) (a : α) (addressB : Address) (b : α) :
    Except Fault (OrderedPair α) :=
  if h : addressA < addressB then .ok ⟨⟨addressA, a⟩, ⟨addressB, b⟩, h⟩
  else if h : addressB < addressA then .ok ⟨⟨addressB, b⟩, ⟨addressA, a⟩, h⟩
  else .error (.identicalTokens addressA)

/-- The token at a place. -/
def side (pair : OrderedPair α) : Side → PairSide α
  | .first => pair.first
  | .second => pair.second

/-- The place of a token. -/
def sideOf (pair : OrderedPair α) (token : Address) : Except Fault Side :=
  if pair.first.address = token then .ok .first
  else if pair.second.address = token then .ok .second
  else .error (.tokenNotInPair token pair.first.address pair.second.address)

/-- What is attached to the two tokens, in order. -/
def payloads (pair : OrderedPair α) : α × α := (pair.first.payload, pair.second.payload)

/-- What is attached, joined by a stroke. -/
def text [ToString α] (pair : OrderedPair α) : String :=
  s!"{pair.first.payload}/{pair.second.payload}"

/-! ## Laws -/

theorem of_of_lt {a b : Address} (h : a < b) (x y : α) :
    of a x b y = .ok ⟨⟨a, x⟩, ⟨b, y⟩, h⟩ := dif_pos h

theorem of_of_gt {a b : Address} (h : b < a) (x y : α) :
    of a x b y = .ok ⟨⟨b, y⟩, ⟨a, x⟩, h⟩ := by
  rw [of, dif_neg (Address.lt_asymm h), dif_pos h]

theorem of_self (a : Address) (x y : α) : of a x a y = .error (.identicalTokens a) := by
  rw [of, dif_neg a.lt_irrefl, dif_neg a.lt_irrefl]

/-- The order in which two tokens are given does not matter. -/
theorem of_comm (a b : Address) (x y : α) : of a x b y = of b y a x := by
  by_cases h : a < b
  · rw [of_of_lt h, of_of_gt h]
  · by_cases h' : b < a
    · rw [of_of_gt h', of_of_lt h']
    · cases Address.eq_of_not_lt h h'
      rw [of_self, of_self]

theorem sideOf_first (pair : OrderedPair α) : pair.sideOf pair.first.address = .ok .first :=
  if_pos rfl

theorem sideOf_second (pair : OrderedPair α) : pair.sideOf pair.second.address = .ok .second := by
  rw [sideOf, if_neg fun h => Address.lt_irrefl _ (h ▸ pair.sorted), if_pos rfl]

end OrderedPair

end Tickwise
