import FluxIP.Async.Pool
import FluxIP.Domain.TraefikProvider
import FluxIP.Adapters.DebounceWorker
import FluxIP.Guarantees.FinalOutcomes
import FluxIP.Guarantees.SettlementDelivery
import FluxIP.Domain.Text
import FluxIP.Adapters.TraefikProviders
import FluxIP.Adapters.GrpcAgentServer
import FluxIP.Adapters.ProviderService
import FluxIP.Guarantees.TokenBound
import FluxIP.Adapters.ProviderPrograms
import FluxIP.Domain.SessionDiscipline
import FluxIP.Guarantees.Revocation
import FluxIP.Net.Netip
import FluxIP.Adapters.Actions
import FluxIP.Adapters.IpClients
import FluxIP.Adapters.AccountSettings
import FluxIP.Adapters.ActionRun
import FluxIP.Adapters.BackendService
import FluxIP.Adapters.Decisions
import FluxIP.Guarantees.OptimisticConcurrency
import FluxIP.Guarantees.CutOff
import FluxIP.Adapters.SnapshotCoordinator
import FluxIP.Async.Coalescer
import FluxIP.Guarantees.TriggerConservation
import FluxIP.Adapters.Turns
import FluxIP.Adapters.Publishing
import FluxIP.Guarantees.PublishedVersions
import FluxIP.Adapters.Sending
import FluxIP.Agent.Agent
import FluxIP.Guarantees.AgentMemory
import FluxIP.Guarantees.ExecutionsEnd
import FluxIP.Adapters.SnapshotBuild
import FluxIP.Guarantees.ChangesScheduled
import FluxIP.Adapters.Ownership
import FluxIP.Guarantees.Erasure
import FluxIP.Guarantees.CrashSafety
import FluxIP.Guarantees.AgentFiles
import FluxIP.Adapters.Recording
import FluxIP.Adapters.DeliveryStatus
import FluxIP.Guarantees.ProviderRuns
import FluxIP.Guarantees.ReportedVersions
import FluxIP.Adapters.SessionTurns
import FluxIP.Guarantees.TerminalStates
import FluxIP.Guarantees.HelloFirst
import FluxIP.Guarantees.SilentProviders
import FluxIP.Async.Knowledge
import FluxIP.Guarantees.SessionEvents
import FluxIP.Guarantees.SessionRegistry
import FluxIP.Adapters.EndReasons
import FluxIP.Guarantees.FoldedPresence
import FluxIP.Guarantees.ForeignFiles
import FluxIP.Guarantees.OfflineLimit
import FluxIP.Guarantees.Reloading
import FluxIP.Guarantees.ConfirmedChanges
import FluxIP.Guarantees.OneDelivery
import FluxIP.Adapters.Checks
import FluxIP.Guarantees.DeviceLimit
import FluxIP.Adapters.References
import FluxIP.Guarantees.ReferentialIntegrity
import FluxIP.Guarantees.DecidedRuns
import FluxIP.Adapters.History
import FluxIP.Async.Lockstep
import FluxIP.Adapters.AccountReads
import FluxIP.Guarantees.AccountIsolation
import FluxIP.Guarantees.FailedSnapshots
import FluxIP.Async.Completion
import FluxIP.Guarantees.ExactFiles
import FluxIP.Guarantees.CanonicalSnapshots
import FluxIP.Guarantees.DeliveryRows
import FluxIP.Guarantees.DeliveryStages
import FluxIP.Guarantees.StatusHistory
import FluxIP.Guarantees.FirewallUpdates
import FluxIP.Guarantees.FanOut
import FluxIP.Guarantees.Notifications
import FluxIP.Guarantees.AcceptedConfigs
import FluxIP.Guarantees.FirstContact
import FluxIP.Guarantees.HeartbeatTimers
import FluxIP.Domain.SessionEnds
import FluxIP.Guarantees.DisconnectCauses
import FluxIP.Guarantees.Lockouts
import FluxIP.Adapters.Migrations
import FluxIP.Guarantees.SchemaMigrations
import FluxIP.Async.Promises
import FluxIP.Domain.KeyedMutex
import FluxIP.Domain.MutexInvariant
import FluxIP.Guarantees.MutexOrder
import FluxIP.Adapters.ProtoCodec
import FluxIP.Guarantees.ReportTexts
import FluxIP.Config.Check
import FluxIP.Guarantees.CheckedConfig
import FluxIP.Wire.Json
import FluxIP.Adapters.SnapshotWire
import FluxIP.Guarantees.SnapshotSize
import FluxIP.Guarantees.SerialUpdates
import FluxIP.Agent.SessionClient
import FluxIP.Agent.SessionSteps
import FluxIP.Agent.Process
import FluxIP.Guarantees.Reconnecting
import FluxIP.Guarantees.SessionProtocol
import FluxIP.Guarantees.StaleMarking
import FluxIP.Guarantees.TicketLock
import FluxIP.Adapters.Origins
import FluxIP.Adapters.Writes
import FluxIP.Guarantees.AddressOrigins
import FluxIP.Guarantees.OneHost
