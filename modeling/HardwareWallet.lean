import HardwareWallet.Json.Reader
import HardwareWallet.Main
import HardwareWallet.Transport.Amended
import HardwareWallet.Proofs.Attempt
import HardwareWallet.Proofs.Since
import HardwareWallet.Proofs.Positional
import HardwareWallet.Proofs.Number
import HardwareWallet.Proofs.Bytes
import HardwareWallet.Proofs.Curve.Compressed
import HardwareWallet.Proofs.ExtendedKey.Neuter
import HardwareWallet.Proofs.Device.Reaction
import HardwareWallet.Proofs.Device.History
import HardwareWallet.Proofs.Device.WellFormed
import HardwareWallet.Proofs.Device.Creation
import HardwareWallet.Proofs.Device.Protected
import HardwareWallet.Proofs.Device.WordCycle
import HardwareWallet.Proofs.Device.Secrecy
import HardwareWallet.Proofs.Channel.Subscribers
import HardwareWallet.Proofs.Channel.Delivery
import HardwareWallet.Proofs.Session.Turn
import HardwareWallet.Proofs.Session.Lifecycle
import HardwareWallet.Proofs.Session.Exchange
import HardwareWallet.Proofs.Client.Operation
import HardwareWallet.Proofs.Client.Request
import HardwareWallet.Proofs.Client.PinAttempts
import HardwareWallet.Proofs.Link.Emulated
import HardwareWallet.Proofs.Progress.Hearing
import HardwareWallet.Proofs.Session.Emulated
import HardwareWallet.Proofs.Client.Lifetime
import HardwareWallet.Proofs.Client.ResetAgreement
import HardwareWallet.Proofs.Client.Correlation
import HardwareWallet.Proofs.Client.LockAgreement
import HardwareWallet.Proofs.Client.WordCountAgreement
import HardwareWallet.Proofs.Base58.Bijection
import HardwareWallet.Proofs.Base58.Checked
import HardwareWallet.Proofs.ExtendedKey.Serialization
import HardwareWallet.Proofs.ExtendedKey.Derivation
import HardwareWallet.Proofs.ExtendedKey.Reading
import HardwareWallet.Proofs.Client.InitialiseAgreement
import HardwareWallet.Proofs.Client.Readiness
import HardwareWallet.Proofs.Command.Exchange
import HardwareWallet.Proofs.ExtendedKey.Network
import HardwareWallet.Proofs.Command.PublicKey
import HardwareWallet.Proofs.Command.SetUp
import HardwareWallet.Proofs.Text.Numeral
import HardwareWallet.Proofs.Path.Text
import HardwareWallet.Proofs.Path.Range
import HardwareWallet.Proofs.Path.CipherKey
import HardwareWallet.Proofs.Aes.Chaining
import HardwareWallet.Proofs.ExtendedKey.Cipher
import HardwareWallet.Proofs.Command.Cipher
import HardwareWallet.Proofs.Device.Abandonment
import HardwareWallet.Proofs.Client.Cancellation
import HardwareWallet.Proofs.Client.FailedExchange
import HardwareWallet.Proofs.Device.Refusal
import HardwareWallet.Proofs.Errors
import HardwareWallet.Proofs.ExtendedKey.Faults
import HardwareWallet.Proofs.Device.Faults
import HardwareWallet.Proofs.Session.Faults
import HardwareWallet.Proofs.Channel.Offered
import HardwareWallet.Proofs.Channel.Visited
import HardwareWallet.Proofs.Client.Bystanders
import HardwareWallet.Proofs.Client.Written
import HardwareWallet.Proofs.Client.Arguments
import HardwareWallet.Proofs.Command.Reply
import HardwareWallet.Proofs.Command.Bystanders
import HardwareWallet.Proofs.Command.Opening
import HardwareWallet.Proofs.CommandLine.Closing
import HardwareWallet.Proofs.Client.CipherIdentity
import HardwareWallet.Proofs.Text.Hexadecimal
import HardwareWallet.Proofs.ExtendedKey.PublicKeyText
