import Tickwise.Address
import Tickwise.Contract
import Tickwise.Decimal.Printer
import Tickwise.Text.Quoted

/-!
# Faults

The reasons for which a computation refuses its input, and the message of each. A fault is
raised by the library's own rules; what goes wrong on the chain is a `Failure`.
-/

namespace Tickwise

open Text

/-- The calculation whose result left its range. -/
inductive Calculation where
  | mulDiv
  | mulDivUp
  | liquidityForAmount0
  | positionLiquidity
  | encodePrice
deriving DecidableEq

namespace Calculation

/-- The name of a calculation in messages. -/
def name : Calculation → String
  | mulDiv => "mul_div"
  | mulDivUp => "mul_div_rounding_up"
  | liquidityForAmount0 => "max_liquidity_for_amount0_precise"
  | positionLiquidity => "position liquidity"
  | encodePrice => "encode_sqrt_price_x96"

end Calculation

/-- What is wrong with a written amount. -/
inductive AmountProblem where
  | notDecimal
  | negative
  | negativeReserve
  | tooManyPlaces (decimals : Nat)
  | exponentTooLarge
  | tooLarge
deriving DecidableEq

namespace AmountProblem

/-- The problem in words. -/
def message : AmountProblem → String
  | notDecimal => "not a decimal number"
  | negative => "amount must not be negative"
  | negativeReserve => "reserves must not be negative"
  | tooManyPlaces decimals => s!"more than {decimals} fractional digits"
  | exponentTooLarge => "exponent too large"
  | tooLarge => "does not fit in 256 bits"

end AmountProblem

/-- A reason to refuse an input. -/
inductive Fault where
  /-- Both tokens of a pair have one address. -/
  | identicalTokens (address : Address)
  /-- The fee is no fee tier. -/
  | unsupportedFee (fee : Nat)
  /-- A swap path has not one fee for each hop. -/
  | pathLengthMismatch (tokens fees : Nat)
  /-- A swap path has fewer than two tokens. -/
  | pathTooShort (tokens : Nat)
  /-- A packed path has a length that no route has. -/
  | malformedPath (bytes : Nat)
  /-- A price ratio has the denominator zero. -/
  | zeroDenominator (reserve1 : Decimal)
  /-- An amount of a token cannot be read in its units. -/
  | invalidAmount (amount symbol : String) (problem : AmountProblem)
  /-- A range has no width. -/
  | invalidTickWidth
  /-- A token is not of the pair. -/
  | tokenNotInPair (token token0 token1 : Address)
  /-- A slippage tolerance is above the whole. -/
  | invalidSlippage (bps : Nat)
  /-- A tick spacing is not positive. -/
  | invalidTickSpacing (spacing : Int)
  /-- A tick is outside the protocol's bounds. -/
  | tickOutOfBounds (tick : Int)
  /-- A square-root price is outside the range a pool can start at. -/
  | priceOutOfBounds (price : Nat)
  /-- A range holds none of the token whose amount is fixed. -/
  | rangeExcludesToken (symbol : String) (tick tickLower tickUpper : Int)
  /-- A result does not fit its word. -/
  | mathOverflow (calculation : Calculation)
  /-- A divisor is zero. -/
  | divisionByZero
  /-- The deployment registry has no such network. -/
  | unknownNetwork (network : String)
  /-- A network has no such contract. -/
  | unknownContract (contract : Contract) (network : String)
deriving DecidableEq

namespace Fault

/-- The message of a fault. -/
def message : Fault → String
  | identicalTokens address =>
    s!"token pair must contain two distinct tokens, got {address} twice"
  | unsupportedFee fee =>
    s!"unsupported fee tier {fee}, expected one of 100, 500, 3000, 10000"
  | pathLengthMismatch tokens fees =>
    s!"swap path needs fees.len() == tokens.len() - 1, got {tokens} tokens and {fees} fees"
  | pathTooShort tokens => s!"swap path needs at least 2 tokens, got {tokens}"
  | malformedPath bytes => s!"packed path of {bytes} bytes is not 20 + 23 * hops"
  | zeroDenominator reserve1 =>
    s!"reserve0 must be non-zero to encode a price ratio (reserve1 = {reserve1})"
  | invalidAmount amount symbol problem =>
    s!"invalid amount {quoted amount} for {symbol}: {problem.message}"
  | invalidTickWidth => "tick width multiplier must be at least 1"
  | tokenNotInPair token token0 token1 =>
    s!"token {token} is not one of the pair tokens {token0} / {token1}"
  | invalidSlippage bps => s!"slippage tolerance of {bps} bps exceeds 10000"
  | invalidTickSpacing spacing => s!"tick spacing must be positive, got {spacing}"
  | tickOutOfBounds tick => s!"tick {tick} is outside [-887272, 887272]"
  | priceOutOfBounds price => s!"sqrt price {price} is outside the initializable range"
  | rangeExcludesToken symbol tick tickLower tickUpper =>
    s!"tick range [{tickLower}, {tickUpper}) around tick {tick} holds no {symbol}"
  | mathOverflow calculation => s!"math overflow in {calculation.name}"
  | divisionByZero => "division by zero"
  | unknownNetwork network =>
    s!"network {quoted network} is not present in the deployment registry"
  | unknownContract contract network =>
    s!"contract {contract} is not deployed on network {quoted network}"

end Fault

end Tickwise
