import BuzzServer.Relational.Table
import BuzzServer.Concurrent.Discipline
import BuzzServer.AgentFiles
import BuzzServer.Daemon.System
import BuzzServer.ExactlyOnce
import BuzzServer.Storage.Effects
import BuzzServer.Daemon.Effects
import BuzzServer.Storage.Consistent
import BuzzServer.Daemon.Conduct
import BuzzServer.Daemon.Requests
import BuzzServer.Daemon.Supervision
import BuzzServer.Daemon.Worker
import BuzzServer.Daemon.Lawful
import BuzzServer.Daemon.Schedule
import BuzzServer.Daemon.Provenance
import BuzzServer.DesiredState
import BuzzServer.Tombstones
import BuzzServer.Purge
import BuzzServer.Retention
import BuzzServer.Recovery
import BuzzServer.RequestIdentity
import BuzzServer.Daemon.Calls
import BuzzServer.UpdateFile
import BuzzServer.Daemon.Ledger
import BuzzServer.Resubmission
import BuzzServer.Promotion
import BuzzServer.CreateFaults
import BuzzServer.Convergence
import BuzzServer.SingleProcess
import BuzzServer.Stopping
import BuzzServer.Replay
import BuzzServer.OperationHistory
import BuzzServer.Handler
import BuzzServer.Submitter
import BuzzServer.AgentIdentity
import BuzzServer.CommunityIsolation
import BuzzServer.CommunityRequests
import BuzzServer.Custody.Files
import BuzzServer.Custody.Terms
import BuzzServer.Custody.Calls
import BuzzServer.Custody.Identity
import BuzzServer.Completion
import BuzzServer.AuditTrail
import BuzzServer.Json.Value
import BuzzServer.Provider.Config
import BuzzServer.Deployments
import BuzzServer.Local.Catalog
import BuzzServer.Local.Launch
import BuzzServer.Local.Environment
import BuzzServer.LaunchEnvironment
import BuzzServer.Local.Host
import BuzzServer.Local.Supervisor
import BuzzServer.Ownership
import BuzzServer.Signals
import BuzzServer.Storage.Logs
import BuzzServer.Transport
import BuzzServer.Concurrent.Loop
import BuzzServer.Observation
import BuzzServer.AgentFailures
import BuzzServer.RelaySession
import BuzzServer.LaunchContract
import BuzzServer.Installation
import BuzzServer.FileRules
import BuzzServer.PersonaTags
import BuzzServer.EventStream
import BuzzServer.Signer
import BuzzServer.Lineage
