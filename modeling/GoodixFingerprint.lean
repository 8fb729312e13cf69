import GoodixFingerprint.Binder.Bytes
import GoodixFingerprint.Binder.Parcel
import GoodixFingerprint.Binder.DeathLinks
import GoodixFingerprint.Machine.Run
import GoodixFingerprint.Machine.History
import GoodixFingerprint.Machine.Trace
import GoodixFingerprint.Machine.Ledger
import GoodixFingerprint.Machine.Monitor
import GoodixFingerprint.Interface.Daemon
import GoodixFingerprint.Interface.Proxy
import GoodixFingerprint.Interface.Stub
import GoodixFingerprint.Interface.RoundTrip
import GoodixFingerprint.Interface.Framing
import GoodixFingerprint.Interface.Process
import GoodixFingerprint.Daemon.Hal
import GoodixFingerprint.Daemon.Proxy
import GoodixFingerprint.Daemon.Steps
import GoodixFingerprint.Daemon.Run
import GoodixFingerprint.Daemon.Session
import GoodixFingerprint.Daemon.Notices
import GoodixFingerprint.Daemon.Deaths
import GoodixFingerprint.Daemon.Opens
import GoodixFingerprint.Daemon.Messages
import GoodixFingerprint.Daemon.Arguments
import GoodixFingerprint.Daemon.Truncation
import GoodixFingerprint.Daemon.Lifecycle
import GoodixFingerprint.Daemon.Mediation
import GoodixFingerprint.Daemon.Noninterference
import GoodixFingerprint.Daemon.Wire
import GoodixFingerprint.Daemon.Devices
import GoodixFingerprint.Daemon.Registrations
import GoodixFingerprint.Daemon.HalTrace
import GoodixFingerprint.Daemon.Availability
import GoodixFingerprint.Callback.Interface
import GoodixFingerprint.Callback.Proxy
import GoodixFingerprint.Callback.Stub
import GoodixFingerprint.Callback.RoundTrip
import GoodixFingerprint.Callback.Framing
import GoodixFingerprint.Callback.Enumerate
import GoodixFingerprint.Client.World
import GoodixFingerprint.Client.Fingerprint
import GoodixFingerprint.Client.Callback
import GoodixFingerprint.Client.Bounds
import GoodixFingerprint.Client.Delivery
import GoodixFingerprint.Client.Calls
import GoodixFingerprint.Client.System
import GoodixFingerprint.Client.Requests
import GoodixFingerprint.Client.Operations
import GoodixFingerprint.Client.Status
import GoodixFingerprint.Client.Handshake
import GoodixFingerprint.Client.Lengths
import GoodixFingerprint.Client.Devices
import GoodixFingerprint.Client.Reopen
import GoodixFingerprint.Client.Target
import GoodixFingerprint.Client.Watch
import GoodixFingerprint.Client.ActiveGroup
import GoodixFingerprint.Client.Atomicity
import GoodixFingerprint.Client.Conformance
import GoodixFingerprint.Client.Agreement
import GoodixFingerprint.Client.Execution
import GoodixFingerprint.Client.Survival
import GoodixFingerprint.Client.Memory
