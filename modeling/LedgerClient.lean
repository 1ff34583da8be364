import LedgerClient.Bytes
import LedgerClient.Error.Diagnostic
import LedgerClient.Text.Utf8
import LedgerClient.Text.Base58
import LedgerClient.Text.Base64
import LedgerClient.Digest.Sha256
import LedgerClient.Digest.Sha512
import LedgerClient.Curve.Signing
import LedgerClient.Wire.CompactLength
import LedgerClient.Address.Derived
import LedgerClient.Program.Registry
import LedgerClient.Transaction.Wire
import LedgerClient.Rpc.LatestBlockhash
import LedgerClient.Rpc.Submission
import LedgerClient.Subscription.Diagnostic
import LedgerClient.Settings.Load
import LedgerClient.Log.Journal
import LedgerClient.Net.Url
import LedgerClient.Subscription.Client
import LedgerClient.Subscription.Incoming
import LedgerClient.Proofs.Outcome
import LedgerClient.Proofs.Wire.CompactLength
import LedgerClient.Proofs.Message.Wire
import LedgerClient.Proofs.Message.Accounts
import LedgerClient.Proofs.Message.AddressTables
import LedgerClient.Proofs.Message.Layout
import LedgerClient.Proofs.Message.Compile
import LedgerClient.Proofs.Message.SignerOrder
import LedgerClient.Proofs.Message.Sendable
import LedgerClient.Proofs.Subscription.IdTable
import LedgerClient.Proofs.Subscription.Failure
import LedgerClient.Proofs.Transaction.Wire
import LedgerClient.Proofs.Wire.Guarded
import LedgerClient.Proofs.Transaction.Strict
import LedgerClient.Proofs.Subscription.Farewell
import LedgerClient.Proofs.Subscription.Phase
import LedgerClient.Proofs.Subscription.Isolation
import LedgerClient.Proofs.Subscription.Aftermath
import LedgerClient.Proofs.Message.Compilable
import LedgerClient.Proofs.Message.RepeatedTables
import LedgerClient.Proofs.Program.Decode
import LedgerClient.Proofs.Program.Payload
import LedgerClient.Proofs.Message.Typed
import LedgerClient.Proofs.Message.Resolution
import LedgerClient.Proofs.Message.Privileges
import LedgerClient.Proofs.Transaction.Slots
import LedgerClient.Proofs.Transaction.LoadedKeys
import LedgerClient.Proofs.Transaction.AllOrNothing
import LedgerClient.Proofs.Transaction.Rounds
import LedgerClient.Proofs.Address.BumpSearch
import LedgerClient.Proofs.Message.KeyOrder
import LedgerClient.Proofs.Settings.PingPeriod
import LedgerClient.Proofs.Subscription.Schedule
import LedgerClient.Proofs.Subscription.Silence
import LedgerClient.Proofs.Text.Base58
import LedgerClient.Proofs.Key.Text
import LedgerClient.Proofs.Json.Record
import LedgerClient.Proofs.Subscription.Classification
import LedgerClient.Proofs.Subscription.FreshIds
import LedgerClient.Proofs.Subscription.Interleaving
import LedgerClient.Proofs.Subscription.Interleaving.Delivery
import LedgerClient.Proofs.Subscription.Interleaving.Failure
import LedgerClient.Proofs.Subscription.Remembered
import LedgerClient.Proofs.Subscription.Draining
import LedgerClient.Proofs.Wire.LengthForm
import LedgerClient.Proofs.Wire.CursorRun
import LedgerClient.Proofs.Wire.Noted
import LedgerClient.Proofs.Transaction.BackedCounts
import LedgerClient.Proofs.Text.Base64
import LedgerClient.Proofs.Wire.Armor
import LedgerClient.Proofs.Transaction.Text
