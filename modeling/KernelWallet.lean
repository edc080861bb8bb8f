import KernelWallet.Account
import KernelWallet.Address.Error
import KernelWallet.Address.Mix
import KernelWallet.Address.Xin
import KernelWallet.Amount
import KernelWallet.Bytes
import KernelWallet.Client.Config
import KernelWallet.Client.Hosts
import KernelWallet.Client.Http
import KernelWallet.Client.Kernel
import KernelWallet.Client.Safe
import KernelWallet.Client.Url
import KernelWallet.Command.Arguments
import KernelWallet.Command.Run
import KernelWallet.Curve.Basic
import KernelWallet.Curve.Ed25519
import KernelWallet.Curve.Field
import KernelWallet.Digest.Blake3
import KernelWallet.Digest.Sha3
import KernelWallet.Digest.Sha512
import KernelWallet.Digest.Word
import KernelWallet.Domain.Label
import KernelWallet.Domain.Mapping
import KernelWallet.Domain.Name
import KernelWallet.Domain.Punycode
import KernelWallet.Entropy
import KernelWallet.Ghost.Keys
import KernelWallet.Ghost.Tweak
import KernelWallet.Instances
import KernelWallet.Json.Basic
import KernelWallet.Json.Number
import KernelWallet.Json.Reader
import KernelWallet.Json.Record
import KernelWallet.Json.Writer
import KernelWallet.Key.Arithmetic
import KernelWallet.Key.Basic
import KernelWallet.Key.Json
import KernelWallet.Key.Signing
import KernelWallet.Main
import KernelWallet.Msgpack.Reader
import KernelWallet.Msgpack.Writer
import KernelWallet.OutputType
import KernelWallet.Payment.Blueprint
import KernelWallet.Payment.Error
import KernelWallet.Payment.Json
import KernelWallet.Payment.Plan
import KernelWallet.Payment.Signing
import KernelWallet.Script
import KernelWallet.Text.Base58
import KernelWallet.Text.Base64
import KernelWallet.Text.Blank
import KernelWallet.Text.Hex
import KernelWallet.Text.Split
import KernelWallet.Toml.Document
import KernelWallet.Toml.Lexeme
import KernelWallet.Transaction.Basic
import KernelWallet.Transaction.Encoding
import KernelWallet.Transaction.Error
import KernelWallet.Transaction.Json
import KernelWallet.Transaction.Legacy
import KernelWallet.Transaction.Limits
import KernelWallet.Transaction.Session
import KernelWallet.Transaction.Signers
import KernelWallet.Transaction.State
import KernelWallet.Transaction.Validation
import KernelWallet.Transaction.Wire.Reader
import KernelWallet.Transaction.Wire.Writer
import KernelWallet.Unicode.Decomposition
import KernelWallet.Unicode.Direction
import KernelWallet.Unicode.Joining
import KernelWallet.Unicode.Mark
import KernelWallet.Unicode.Normal
import KernelWallet.Unicode.Table
import KernelWallet.Uuid
import KernelWallet.Proofs.Bytes
import KernelWallet.Proofs.Signers
import KernelWallet.Proofs.SignerMap
import KernelWallet.Proofs.Reading
import KernelWallet.Proofs.Amount.Bytes
import KernelWallet.Proofs.Amount.Decimal
import KernelWallet.Proofs.Amount
import KernelWallet.Proofs.Curve
import KernelWallet.Proofs.Key
import KernelWallet.Proofs.Account
import KernelWallet.Proofs.Wire.Field
import KernelWallet.Proofs.Wire.ReadsBack
import KernelWallet.Proofs.Wire.Fits
import KernelWallet.Proofs.Wire.Spelling
import KernelWallet.Proofs.Wire.Canonical
import KernelWallet.Proofs.Msgpack
import KernelWallet.Proofs.Legacy
import KernelWallet.Proofs.Validation
import KernelWallet.Proofs.Spending
import KernelWallet.Proofs.Payload
import KernelWallet.Proofs.Session
import KernelWallet.Proofs.Agreement
import KernelWallet.Proofs.Placement
import KernelWallet.Proofs.Verification
import KernelWallet.Proofs.Verification.Fault
import KernelWallet.Proofs.Relay
import KernelWallet.Proofs.Payment.Plan
import KernelWallet.Proofs.Payment.Blueprint
import KernelWallet.Proofs.Payment.Balance
import KernelWallet.Proofs.Payment.Signing
import KernelWallet.Proofs.Payment.Spend
import KernelWallet.Proofs.Payment.Outpoint
import KernelWallet.Proofs.Ghost
import KernelWallet.Proofs.Payment.Buildable
import KernelWallet.Proofs.Payment.Receiving
import KernelWallet.Proofs.Wire.Capacity
import KernelWallet.Proofs.Msgpack.Fits
import KernelWallet.Proofs.Legacy.Fits
import KernelWallet.Proofs.Legacy.Groups
import KernelWallet.Proofs.Base58
import KernelWallet.Proofs.Address
import KernelWallet.Proofs.Address.Mix
import KernelWallet.Proofs.Payment.Requests
import KernelWallet.Proofs.Validation.Acceptance
import KernelWallet.Proofs.Validation.Shape
import KernelWallet.Proofs.Validation.Balance
import KernelWallet.Proofs.Ghost.Receivers
import KernelWallet.Proofs.Verification.Aggregate
import KernelWallet.Proofs.Base64
import KernelWallet.Proofs.Hex
import KernelWallet.Proofs.Json
import KernelWallet.Proofs.Json.Blueprint
import KernelWallet.Proofs.Payment.Views
import KernelWallet.Proofs.Placement.Order
import KernelWallet.Proofs.Wire.Framing
import KernelWallet.Proofs.Client.Hosts
import KernelWallet.Proofs.Client.Kernel
import KernelWallet.Proofs.Client.Submission
import KernelWallet.Proofs.Validation.Storage
import KernelWallet.Proofs.Client.Failover
import KernelWallet.Proofs.Extra
import KernelWallet.Proofs.Uuid
import KernelWallet.Proofs.Address.Members
import KernelWallet.Proofs.Client.Members
import KernelWallet.Proofs.Signers.Given
import KernelWallet.Proofs.Key.Derivation
