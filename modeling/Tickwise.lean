import Tickwise.Abi
import Tickwise.Abi.Method
import Tickwise.Address
import Tickwise.Amount.Delta
import Tickwise.Amount.Liquidity
import Tickwise.Bytes
import Tickwise.Chain
import Tickwise.Chain.Ledger
import Tickwise.Chain.Node
import Tickwise.Command
import Tickwise.Command.Arguments
import Tickwise.Command.Host
import Tickwise.Command.Run
import Tickwise.Contract
import Tickwise.Decimal
import Tickwise.Decimal.Printer
import Tickwise.Decimal.Quotient
import Tickwise.Decimal.Reader
import Tickwise.Deployment
import Tickwise.Domain
import Tickwise.Domain.Direction
import Tickwise.Domain.Joining
import Tickwise.Domain.Mapping
import Tickwise.Domain.Punycode
import Tickwise.Failure
import Tickwise.Fault
import Tickwise.Fee
import Tickwise.Fixed
import Tickwise.Journal
import Tickwise.Json
import Tickwise.Json.Forms
import Tickwise.Json.Lexer
import Tickwise.Json.Parser
import Tickwise.Json.Pretty
import Tickwise.Json.Schema
import Tickwise.Keccak
import Tickwise.Main
import Tickwise.Pair
import Tickwise.Pool
import Tickwise.Position
import Tickwise.Position.Sizing
import Tickwise.Power
import Tickwise.Price
import Tickwise.Proofs.Address.Order
import Tickwise.Proofs.Amount.Adjoint
import Tickwise.Proofs.Amount.Exact
import Tickwise.Proofs.Amount.SingleRounding
import Tickwise.Proofs.Amount.Splitting
import Tickwise.Proofs.Chain.Addresses
import Tickwise.Proofs.Chain.Allowances
import Tickwise.Proofs.Chain.Calls
import Tickwise.Proofs.Chain.Consistent
import Tickwise.Proofs.Chain.Effect
import Tickwise.Proofs.Chain.Exchange
import Tickwise.Proofs.Chain.Grants
import Tickwise.Proofs.Chain.MintEvent
import Tickwise.Proofs.Chain.PoolReading
import Tickwise.Proofs.Chain.Watched
import Tickwise.Proofs.Decimal.BaseUnits
import Tickwise.Proofs.Decimal.DisplayUnits
import Tickwise.Proofs.Decimal.Quotient
import Tickwise.Proofs.Decimal.Text
import Tickwise.Proofs.Decimal.Units
import Tickwise.Proofs.Decimal.Value
import Tickwise.Proofs.Pair.Canonical
import Tickwise.Proofs.Position.Backed
import Tickwise.Proofs.Position.FirstFault
import Tickwise.Proofs.Position.FixedSide
import Tickwise.Proofs.Position.Monotone
import Tickwise.Proofs.Position.Resized
import Tickwise.Proofs.Position.Sized
import Tickwise.Proofs.Price.Decoded
import Tickwise.Proofs.Price.Encoded
import Tickwise.Proofs.Price.Exact
import Tickwise.Proofs.Provision.Alone
import Tickwise.Proofs.Provision.Asking
import Tickwise.Proofs.Provision.Campaign
import Tickwise.Proofs.Provision.Clock
import Tickwise.Proofs.Provision.Course
import Tickwise.Proofs.Provision.Deposit
import Tickwise.Proofs.Provision.FailFast
import Tickwise.Proofs.Provision.Frame
import Tickwise.Proofs.Provision.History
import Tickwise.Proofs.Provision.Independent
import Tickwise.Proofs.Provision.Opening
import Tickwise.Proofs.Provision.PairOrder
import Tickwise.Proofs.Provision.Preconditions
import Tickwise.Proofs.Provision.Protocol
import Tickwise.Proofs.Provision.Reached
import Tickwise.Proofs.Provision.Refusal
import Tickwise.Proofs.Provision.Report
import Tickwise.Proofs.Provision.Resume
import Tickwise.Proofs.Route.Packed
import Tickwise.Proofs.Tick.Accuracy
import Tickwise.Proofs.Tick.Inverse
import Tickwise.Proofs.Tick.LogarithmError
import Tickwise.Proofs.Tick.LogarithmExact
import Tickwise.Proofs.Tick.LogarithmWord
import Tickwise.Proofs.Tick.Nearest
import Tickwise.Proofs.Tick.Range
import Tickwise.Proofs.Tick.RangeWord
import Tickwise.Proofs.Tick.RootTable
import Tickwise.Proofs.Tick.SqrtRatio
import Tickwise.Provision.BatchRun
import Tickwise.Provision.Progress
import Tickwise.Provision.Provisioner
import Tickwise.Provision.Request
import Tickwise.Provision.Slippage
import Tickwise.Route
import Tickwise.Settings
import Tickwise.Settings.Assignment
import Tickwise.Settings.Endpoint
import Tickwise.Table
import Tickwise.Text.Blank
import Tickwise.Text.CharTable
import Tickwise.Text.CombiningClass
import Tickwise.Text.Decomposition
import Tickwise.Text.Hex
import Tickwise.Text.Mark
import Tickwise.Text.Normalization
import Tickwise.Text.Numeral
import Tickwise.Text.Quoted
import Tickwise.Text.Unprintable
import Tickwise.Tick.Bounds
import Tickwise.Tick.Logarithm
import Tickwise.Tick.SqrtRatio
import Tickwise.Tick.Usable
import Tickwise.Token
import Tickwise.Proofs.Json.Lexemes
import Tickwise.Proofs.Json.Printed
import Tickwise.Proofs.Json.RoundTrip
