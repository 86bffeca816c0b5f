import Mathlib
import Tickwise.Chain.Node
import Tickwise.Tick.Bounds

/-!
# What is read of a pool behind a node

A pool tells its price, its tick and the rest of its state in words.  The numbers without a sign
come back as they are.  A tick and a tick spacing are sent as the words of signed numbers and
taken from their lowest 24 bits without the sign, so they come back as they are when they are not
negative, and as another number when they are.

* `PoolWords`, `PoolWords.answers` — what a pool keeps, and how its methods tell it;
* `run_readPool` — what is read from these answers;
* `poolState_faithful_iff` — when that is what the pool keeps;
* `negative_tick_misread` — a pool whose tick is read as another one.
-/

namespace Tickwise

namespace Abi

/-! ## Words behind one another -/

theorem follow_words (ns : List ℕ) : Part.follow (partList (ns.map Value.word)) = [] := by
  induction ns with
  | nil => rfl
  | cons n rest ih => simpa [partList, part, Part.follow] using ih

theorem places_words (distance : ℕ) (ns : List ℕ) :
    Part.places distance (partList (ns.map Value.word)) = ns.flatMap word := by
  induction ns with
  | nil => rfl
  | cons n rest ih =>
    simp only [List.map_cons, partList, part, Part.places, ih, List.flatMap_cons]

/-- Numbers are laid out as their words, one behind the other. -/
theorem encode_words (ns : List ℕ) : encode (ns.map Value.word) = ns.flatMap word := by
  rw [encode, Part.layOut, places_words, follow_words, List.append_nil]

/-- The word with an index is read at its place. -/
theorem wordAt?_encode_words {ns : List ℕ} {i n : ℕ} (h : ns[i]? = some n) :
    wordAt? (i * wordSize) (encode (ns.map Value.word)) = some (n % pow2 256) := by
  rw [encode_words]
  induction ns generalizing i with
  | nil => simp at h
  | cons first rest ih =>
    cases i with
    | zero =>
      simp only [List.getElem?_cons_zero, Option.some.injEq] at h
      rw [h, List.flatMap_cons, Nat.zero_mul, wordAt?_word_append]
    | succ i =>
      rw [List.getElem?_cons_succ] at h
      have hplace : (i + 1) * wordSize = (word first).length + i * wordSize := by
        rw [length_word]
        ring
      rw [List.flatMap_cons, hplace, wordAt?_length_add, ih h]

/-- A number that fits in a word comes back from its place. -/
theorem wordAt?_encode_words_of_lt {ns : List ℕ} {i n : ℕ} (hn : n < pow2 256)
    (h : ns[i]? = some n) : wordAt? (i * wordSize) (encode (ns.map Value.word)) = some n := by
  rw [wordAt?_encode_words h, Nat.mod_eq_of_lt hn]

/-! ## Signed numbers in words -/

/-- The lowest bits of a signed word are the number modulo their count. -/
theorem low_signed (n : ℤ) : (low 24 (signed n) : ℤ) = n % 2 ^ 24 := by
  have hnonneg : 0 ≤ n % (pow2 256 : ℤ) := Int.emod_nonneg _ (by decide)
  have hword : ((signed n : ℕ) : ℤ) = n % (pow2 256 : ℤ) := Int.toNat_of_nonneg hnonneg
  have hdvd : (2 ^ 24 : ℤ) ∣ ((pow2 256 : ℕ) : ℤ) := ⟨2 ^ 232, by decide⟩
  calc (low 24 (signed n) : ℤ) = ((signed n : ℕ) : ℤ) % 2 ^ 24 := by
        rw [low]
        push_cast
        rfl
    _ = n % (pow2 256 : ℤ) % 2 ^ 24 := by rw [hword]
    _ = n % 2 ^ 24 := Int.emod_emod_of_dvd n hdvd

theorem signed_lt (n : ℤ) : signed n < pow2 256 := by
  have hlt : n % (pow2 256 : ℤ) < (pow2 256 : ℤ) := Int.emod_lt_of_pos _ (by decide)
  have hnonneg : 0 ≤ n % (pow2 256 : ℤ) := Int.emod_nonneg _ (by decide)
  have hword : ((signed n : ℕ) : ℤ) = n % (pow2 256 : ℤ) := Int.toNat_of_nonneg hnonneg
  omega

/-- Without the sign a number of 24 bits comes back as it was when it is not negative, and
`2 ^ 24` above it when it is. -/
theorem emod_eq_of_fitsSigned {n : ℤ} (h : FitsSigned 24 n) :
    n % 2 ^ 24 = if 0 ≤ n then n else n + 2 ^ 24 := by
  have hlow : -(2 ^ 23 : ℤ) ≤ n := h.1
  have hhigh : n < (2 ^ 23 : ℤ) := h.2
  split <;> omega

end Abi

open Abi

/-! ## A pool and its answers -/

/-- What a pool keeps: the number of bits of each is that of its place in the interface. -/
structure PoolWords where
  sqrtPrice : ℕ
  tick : ℤ
  /-- What stands behind price and tick, and is not read. -/
  rest : List ℕ
  liquidity : ℕ
  tickSpacing : ℤ
  fee : ℕ
  sqrtPrice_lt : sqrtPrice < pow2 160
  tick_fits : FitsSigned 24 tick
  length_rest : rest.length = 5
  liquidity_lt : liquidity < pow2 128
  tickSpacing_fits : FitsSigned 24 tickSpacing
  fee_lt : fee < pow2 24

namespace PoolWords

/-- What the four methods of a pool answer. -/
def answers (kept : PoolWords) : List (List UInt8) :=
  [[kept.sqrtPrice, signed kept.tick] ++ kept.rest, [kept.liquidity], [signed kept.tickSpacing],
    [kept.fee]].map fun ns => encode (ns.map Value.word)

/-- The pool that is read. -/
def read (kept : PoolWords) (pool : Address) : Pool :=
  { address := pool
    tick := kept.tick % 2 ^ 24
    tickSpacing := kept.tickSpacing % 2 ^ 24
    fee := kept.fee
    sqrtPrice := kept.sqrtPrice
    liquidity := kept.liquidity }

end PoolWords

namespace Node

/-- What is answered next is read, and the request noted. -/
theorem run_ask {α : Type} {read? : List UInt8 → Option α} (contract : Address) (method : Method)
    (arguments : List Value) {session : Session Node} {data : List UInt8} {a : α}
    {more : List (Option (List UInt8))} (hnext : session.chain.returns = some data :: more)
    (hread : read? data = some a) :
    ∃ later, (ask read? contract method arguments).run session = (.ok a, later) ∧
      later.chain.returns = more := by
  refine ⟨{ session with chain := { session.chain with
    requests := session.chain.requests ++ [.call contract (method.callData arguments)]
    returns := more } }, ?_, rfl⟩
  simp only [ask, call, note, answered, Action.run_bind, Action.run_change, Action.run_chain, hnext,
    List.head?_cons, Option.join_some, Action.run_pure, List.tail_cons, hread]

theorem wordAt?_single {n : ℕ} (h : n < pow2 256) :
    wordAt? 0 (encode ([n].map Value.word)) = some n := by
  have hat := wordAt?_encode_words_of_lt h (rfl : [n][0]? = some n)
  rwa [Nat.zero_mul] at hat

theorem slot0?_answer (kept : PoolWords) :
    slot0? (encode (([kept.sqrtPrice, signed kept.tick] ++ kept.rest).map Value.word)) =
      some (kept.sqrtPrice, low 24 (signed kept.tick)) := by
  obtain ⟨last, hlast⟩ : ∃ last, ([kept.sqrtPrice, signed kept.tick] ++ kept.rest)[6]? =
      some last := by
    refine ⟨_, List.getElem?_eq_getElem (?_ : 6 < _)⟩
    simp [kept.length_rest]
  have hword : kept.sqrtPrice < pow2 256 := kept.sqrtPrice_lt.trans (by decide)
  have hprice := wordAt?_encode_words_of_lt hword
    (rfl : ([kept.sqrtPrice, signed kept.tick] ++ kept.rest)[0]? = some kept.sqrtPrice)
  have htick := wordAt?_encode_words_of_lt (signed_lt kept.tick)
    (rfl : ([kept.sqrtPrice, signed kept.tick] ++ kept.rest)[1]? = some (signed kept.tick))
  rw [Nat.zero_mul] at hprice
  rw [Nat.one_mul] at htick
  rw [slot0?, hprice, htick, wordAt?_encode_words hlast]
  simp [low, Nat.mod_eq_of_lt kept.sqrtPrice_lt]

/-- A tick of 24 bits is sent as its signed word. -/
theorem run_tickWord {tick : ℤ} (h : FitsSigned 24 tick) (session : Session Node) :
    (tickWord tick).run session = (.ok (signed tick), session) := by
  rw [tickWord, int24?, if_pos h]
  rfl

/-- What is read of a pool when its four methods answer. -/
theorem run_readPool (kept : PoolWords) (pool : Address) {session : Session Node}
    {more : List (Option (List UInt8))}
    (hanswers : session.chain.returns = kept.answers.map some ++ more) :
    ∃ later, (Chain.poolState pool : Action Node Pool).run session =
      (.ok (kept.read pool), later) := by
  have hliquidity : kept.liquidity < pow2 256 := kept.liquidity_lt.trans (by decide)
  have hfee : kept.fee < pow2 256 := kept.fee_lt.trans (by decide)
  obtain ⟨session0, hrun0, hnext0⟩ := run_ask pool .slot0 [] hanswers (slot0?_answer kept)
  obtain ⟨session1, hrun1, hnext1⟩ := run_ask pool .liquidity [] hnext0
    (wordAt?_single hliquidity)
  obtain ⟨session2, hrun2, hnext2⟩ := run_ask pool .tickSpacing [] hnext1
    (wordAt?_single (signed_lt kept.tickSpacing))
  obtain ⟨session3, hrun3, -⟩ := run_ask pool .fee [] hnext2 (wordAt?_single hfee)
  refine ⟨session3, ?_⟩
  change (readPool pool).run session = _
  rw [readPool, Action.run_bind_of_ok hrun0, Action.run_bind_of_ok hrun1,
    Action.run_bind_of_ok hrun2, Action.run_bind_of_ok hrun3, Action.run_pure]
  have hlow : ∀ {bits n : ℕ}, n < pow2 bits → low bits n = n := Nat.mod_eq_of_lt
  simp only [PoolWords.read, low_signed, hlow kept.fee_lt, hlow kept.liquidity_lt]

/-- **What is read of a pool is what it keeps, but for the signs.**  Price, liquidity and fee are
read as they are, and a tick or a spacing exactly when it is not negative.  A tick within the
bounds is told by the word that a mint sends for it; one below zero is read as a number above all
ticks. -/
theorem poolState_faithful_iff (kept : PoolWords) (pool : Address) {session : Session Node}
    {more : List (Option (List UInt8))}
    (hanswers : session.chain.returns = kept.answers.map some ++ more) :
    ∃ read later, (Chain.poolState pool : Action Node Pool).run session = (.ok read, later) ∧
      read.address = pool ∧ read.sqrtPrice = kept.sqrtPrice ∧
      read.liquidity = kept.liquidity ∧ read.fee = kept.fee ∧
      (read.tick = if 0 ≤ kept.tick then kept.tick else kept.tick + 2 ^ 24) ∧
      (read.tickSpacing =
        if 0 ≤ kept.tickSpacing then kept.tickSpacing else kept.tickSpacing + 2 ^ 24) ∧
      (read.tick = kept.tick ↔ 0 ≤ kept.tick) ∧
      (read.tickSpacing = kept.tickSpacing ↔ 0 ≤ kept.tickSpacing) ∧
      (tickWord kept.tick).run session = (.ok (signed kept.tick), session) ∧
      (InTickBounds kept.tick → (InTickBounds read.tick ↔ 0 ≤ kept.tick)) := by
  obtain ⟨later, hrun⟩ := run_readPool kept pool hanswers
  have htick : (kept.read pool).tick = if 0 ≤ kept.tick then kept.tick else kept.tick + 2 ^ 24 :=
    emod_eq_of_fitsSigned kept.tick_fits
  have hspacing : (kept.read pool).tickSpacing =
      if 0 ≤ kept.tickSpacing then kept.tickSpacing else kept.tickSpacing + 2 ^ 24 :=
    emod_eq_of_fitsSigned kept.tickSpacing_fits
  refine ⟨kept.read pool, later, hrun, rfl, rfl, rfl, rfl, htick, hspacing, ?_, ?_,
    run_tickWord kept.tick_fits session, ?_⟩
  · rw [htick]
    split <;> omega
  · rw [hspacing]
    split <;> omega
  · rintro ⟨hlow, hhigh⟩
    rw [htick]
    unfold InTickBounds minTick maxTick at *
    split <;> omega

/-! ## A tick that is misread -/

/-- A pool at a price below one, where ticks are negative. -/
def belowOne : PoolWords where
  sqrtPrice := 35431911422859142059220343232
  tick := -16096
  rest := [0, 1, 1, 0, 1]
  liquidity := 7
  tickSpacing := 10
  fee := 500
  sqrtPrice_lt := by decide
  tick_fits := by decide
  length_rest := rfl
  liquidity_lt := by decide
  tickSpacing_fits := by decide
  fee_lt := by decide

/-- A node that answers for such a pool. -/
def belowOneNode : Node := { silent with returns := belowOne.answers.map some }

theorem belowOneNode_returns :
    (⟨belowOneNode, 0, []⟩ : Session Node).chain.returns = belowOne.answers.map some ++ [] :=
  (List.append_nil _).symm

theorem poolState_below_one :
    ∃ read later, (Chain.poolState .zero : Action Node Pool).run ⟨belowOneNode, 0, []⟩ =
      (.ok read, later) ∧ read.sqrtPrice = belowOne.sqrtPrice ∧ read.tick = 16761120 ∧
      read.tickSpacing = 10 := by
  obtain ⟨read, later, hrun, -, hprice, -, -, htick, hspacing, -⟩ :=
    poolState_faithful_iff belowOne .zero belowOneNode_returns
  exact ⟨read, later, hrun, hprice, htick, hspacing⟩

/-- A tick is not always read as the one that the pool keeps. -/
theorem negative_tick_misread :
    ¬ ∀ (kept : PoolWords) (pool : Address) (session : Session Node),
      session.chain.returns = kept.answers.map some →
      ∃ read later, (Chain.poolState pool : Action Node Pool).run session = (.ok read, later) ∧
        read.tick = kept.tick := by
  intro hall
  obtain ⟨read, later, hrun, htick⟩ := hall belowOne .zero ⟨belowOneNode, 0, []⟩ rfl
  obtain ⟨later', hrun'⟩ := run_readPool belowOne .zero belowOneNode_returns
  rw [hrun] at hrun'
  cases hrun'
  exact absurd htick (by decide)

end Node

end Tickwise
