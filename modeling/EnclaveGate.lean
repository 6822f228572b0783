import EnclaveGate.Diagnostic.Session
import EnclaveGate.Diagnostic.Settings
import EnclaveGate.Proofs.Traffic.Alone
import EnclaveGate.Proofs.Traffic.ForwardOnce
import EnclaveGate.Proofs.Traffic.Kept
import EnclaveGate.Proofs.Traffic.Release
import EnclaveGate.Schedule
import EnclaveGate.Settings.Resolve
import EnclaveGate.Verdict.Report
import EnclaveGate.Proofs.Registry.Sessions
import EnclaveGate.Proofs.Session.Forward
import EnclaveGate.Proofs.Traffic.Basic
import EnclaveGate.Proofs.Crypto.Ecdsa
import EnclaveGate.Proofs.Crypto.Sealing
import EnclaveGate.Proofs.Handshake.Enclave
import EnclaveGate.Proofs.Handshake.Honest
import EnclaveGate.Proofs.Handshake.Repeated
import EnclaveGate.Proofs.Crowd.Basic
import EnclaveGate.Proofs.Crowd.Identity
import EnclaveGate.Proofs.Schedule.Alone
import EnclaveGate.Proofs.Schedule.Dispatch
import EnclaveGate.Proofs.Schedule.Table
import EnclaveGate.Proofs.Traffic.Completion
import EnclaveGate.Proofs.Traffic.Condemned
import EnclaveGate.Proofs.Traffic.Secrecy
import EnclaveGate.Proofs.Traffic.Agreement
import EnclaveGate.Proofs.Schedule.Reapers
import EnclaveGate.Proofs.Server.Parcels
import EnclaveGate.Proofs.Session.Rejection
import EnclaveGate.Proofs.Traffic.Isolation
import EnclaveGate.Proofs.Registry.Eviction
import EnclaveGate.Proofs.Session.Reception
import EnclaveGate.Proofs.Server.Opening
import EnclaveGate.Proofs.Traffic.Opening
import EnclaveGate.Proofs.Settings.Fields
import EnclaveGate.Proofs.Settings.Files
import EnclaveGate.Proofs.Settings.Acceptance
import EnclaveGate.Proofs.Policy.Comparison
import EnclaveGate.Proofs.Message.Authenticated
import EnclaveGate.Proofs.Settings.Assembly
import EnclaveGate.Proofs.Crypto.Aes
import EnclaveGate.Proofs.KeyTree.Labels
import EnclaveGate.Proofs.KeyTree.Tags
import EnclaveGate.Proofs.Handshake.Exchange
import EnclaveGate.Proofs.Traffic.Echo
import EnclaveGate.Proofs.Quote.Layout
import EnclaveGate.Proofs.Message.Exact
import EnclaveGate.Proofs.Message.Framing
import EnclaveGate.Proofs.Settings.Directories
import EnclaveGate.Proofs.Wire.Numbers
