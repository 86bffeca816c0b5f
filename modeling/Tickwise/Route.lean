import Tickwise.Fee

/-!
# Swap routes

A route leads from token to token through a pool of some fee at each hop. The router takes it
packed into bytes, a token and then a fee and a token for each hop, in the order of the route
when the output amount is fixed and reversed when the input amount is.

* `Route.encode`, `Route.decode` — the packed bytes and back.
-/

namespace Tickwise

/-- Which amount of a trade is fixed. -/
inductive TradeType where
  | exactInput
  | exactOutput
deriving DecidableEq

namespace TradeType

/-- The trade type of a choice between a fixed input and a fixed output. -/
def ofExactInput : Bool → TradeType
  | true => exactInput
  | false => exactOutput

instance : ToString TradeType :=
  ⟨fun
    | exactInput => "exact-in"
    | exactOutput => "exact-out"⟩

end TradeType

/-- At least two tokens, and one fee for each hop between them. -/
structure Route where
  tokens : List Address
  fees : List FeeTier
  hops : tokens.length = fees.length + 1
  nonempty : fees ≠ []
deriving DecidableEq

namespace Route

/-- The route of these tokens and fees. -/
def of (tokens : List Address) (fees : List FeeTier) : Except Fault Route :=
  if tokens.length < 2 then .error (.pathTooShort tokens.length)
  else if h : tokens.length = fees.length + 1 then
    if h' : fees = [] then .error (.pathTooShort tokens.length)
    else .ok ⟨tokens, fees, h, h'⟩
  else .error (.pathLengthMismatch tokens.length fees.length)

/-! ## Packed bytes -/

/-- The bytes of an address. -/
def addressSize : Nat := 20

/-- The bytes of a hop: a fee and an address. -/
def hopSize : Nat := 23

/-- A list in the order in which a trade type packs it. -/
def packedOrder {α : Type} : TradeType → List α → List α
  | .exactInput, list => list.reverse
  | .exactOutput, list => list

/-- Tokens and fees taken in turn, a token first. -/
def pack : List Address → List FeeTier → List UInt8
  | [], _ => []
  | token :: _, [] => token.bytes
  | token :: tokens, fee :: fees => token.bytes ++ fee.bytes ++ pack tokens fees

/-- The packed bytes of a route. -/
def encode (route : Route) (trade : TradeType) : List UInt8 :=
  pack (packedOrder trade route.tokens) (packedOrder trade route.fees)

/-- The fees and tokens of `hops` hops. -/
def unpackHops : (hops : Nat) → List UInt8 → Except Fault (List FeeTier × List Address)
  | 0, _ => .ok ([], [])
  | hops + 1, bytes => do
    let fee ← FeeTier.ofFee (Bytes.toNat (bytes.take 3))
    let token := Address.ofBytes ((bytes.drop 3).take addressSize)
    let (fees, tokens) ← unpackHops hops (bytes.drop hopSize)
    return (fee :: fees, token :: tokens)

/-- The route that was packed for a trade type. -/
def decode (bytes : List UInt8) (trade : TradeType) : Except Fault Route := do
  let tail := bytes.length - addressSize
  if bytes.length < addressSize + hopSize ∨ tail % hopSize ≠ 0 then
    throw (.malformedPath bytes.length)
  let first := Address.ofBytes (bytes.take addressSize)
  let (fees, tokens) ← unpackHops (tail / hopSize) (bytes.drop addressSize)
  Route.of (packedOrder trade (first :: tokens)) (packedOrder trade fees)

/-! ## Text -/

instance : ToString Route :=
  ⟨fun route =>
    let hops := route.fees.zipWith (fun fee token => s!"-({fee})-> {token}") route.tokens.tail
    " ".intercalate ((route.tokens.take 1).map toString ++ hops)⟩

end Route

/-- The packed bytes of a route through these tokens and fees. -/
def encodePath (tokens : List Address) (fees : List FeeTier) (trade : TradeType) :
    Except Fault (List UInt8) :=
  (Route.of tokens fees).map (·.encode trade)

end Tickwise
