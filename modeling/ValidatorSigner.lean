import ValidatorSigner.Bls.KeyPair
import ValidatorSigner.Daemon
import ValidatorSigner.FixedBytes
import ValidatorSigner.FixedBytes.Json
import ValidatorSigner.Protection.Context
import ValidatorSigner.Protection.Decide
import ValidatorSigner.Protection.Parameters
import ValidatorSigner.Protection.Retention
import ValidatorSigner.Protection.Rules
import ValidatorSigner.Protection.Schedule
import ValidatorSigner.Settings
import ValidatorSigner.Signing.Handler
import ValidatorSigner.Store.Address
import ValidatorSigner.Store.Snapshot
import ValidatorSigner.Store.Write
import ValidatorSigner.Telemetry.Filter
import ValidatorSigner.Telemetry.Metrics
import ValidatorSigner.Text.Blank
import ValidatorSigner.Text.Letters
import ValidatorSigner.Text.Numeral
import ValidatorSigner.Proofs.Store.WellFormed
import ValidatorSigner.Proofs.Protection.Verdict
import ValidatorSigner.Proofs.Protection.Decision
import ValidatorSigner.Proofs.Protection.Watermark
import ValidatorSigner.Proofs.Protection.History
import ValidatorSigner.Proofs.Protection.Change
import ValidatorSigner.Proofs.Protection.Enrolment
import ValidatorSigner.Proofs.Protection.Pruning
import ValidatorSigner.Proofs.Protection.Effect
import ValidatorSigner.Proofs.Protection.Journal
import ValidatorSigner.Proofs.Protection.Untouched
import ValidatorSigner.Proofs.Protection.OnChain
import ValidatorSigner.Proofs.Protection.OneChain
import ValidatorSigner.Proofs.Protection.FullScan
import ValidatorSigner.Proofs.Protection.Ahead
import ValidatorSigner.Proofs.Protection.Concurrence
import ValidatorSigner.Proofs.Protection.Twins
import ValidatorSigner.Proofs.Protection.Unobservable
import ValidatorSigner.Proofs.Protection.Standing
import ValidatorSigner.Proofs.Protection.Honest
import ValidatorSigner.Proofs.Store.Holding
import ValidatorSigner.Proofs.Protection.Opening
import ValidatorSigner.Proofs.Signing.Permission
import ValidatorSigner.Proofs.Signing.Deployment
import ValidatorSigner.Proofs.Signing.SameFile
import ValidatorSigner.Proofs.Signing.Safety
import ValidatorSigner.Proofs.Protection.Related
import ValidatorSigner.Proofs.Protection.Rollback
import ValidatorSigner.Proofs.Protection.FailClosed
import ValidatorSigner.Proofs.Signing.VersionGate
import ValidatorSigner.Proofs.Protection.AtHand
import ValidatorSigner.Proofs.Signing.Reopening
import ValidatorSigner.Proofs.Protection.Batches
import ValidatorSigner.Proofs.Protection.Exactness
import ValidatorSigner.Proofs.Protection.Shares
import ValidatorSigner.Proofs.Protection.Independence
import ValidatorSigner.Proofs.Protection.Together
import ValidatorSigner.Proofs.Store.Contents
import ValidatorSigner.Proofs.Protection.Gate
import ValidatorSigner.Proofs.Protection.Counters
import ValidatorSigner.Proofs.Signing.Process
import ValidatorSigner.Proofs.Protection.OneLookup
import ValidatorSigner.Proofs.Protection.Completion
import ValidatorSigner.Proofs.Protection.Repeats
import ValidatorSigner.Proofs.Signing.AcceptedLimits
import ValidatorSigner.Proofs.Protection.KnownKeys
import ValidatorSigner.Proofs.Signing.Handling
import ValidatorSigner.Proofs.Store.Passing
import ValidatorSigner.Proofs.Protection.Register
import ValidatorSigner.Proofs.Protection.Retrying
import ValidatorSigner.Proofs.Protection.PruningLoop
import ValidatorSigner.Proofs.FixedBytes.Order
import ValidatorSigner.Proofs.Keys.FirstOfEach
import ValidatorSigner.Proofs.FixedBytes.WrittenForm
import ValidatorSigner.Proofs.Bls.SecretForm
import ValidatorSigner.Proofs.Settings
import ValidatorSigner.Proofs.Settings.JsonLogs
import ValidatorSigner.Proofs.Protection.Witnesses
import ValidatorSigner.Proofs.FixedBytes.WrittenOrder
