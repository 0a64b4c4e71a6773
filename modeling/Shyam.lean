import Shyam.Lib.Dict
import Shyam.Lib.Gossip
import Shyam.Lib.Register
import Shyam.Lib.Program
import Shyam.Lib.DateTime
import Shyam.Identity.Crypto
import Shyam.Identity.KeyFiles
import Shyam.Trust.Codec
import Shyam.Trust.Service
import Shyam.Sync.Versions
import Shyam.Sync.Authenticator
import Shyam.Sync.Facts
import Shyam.Sync.Network
import Shyam.Proof.CapabilityKnowledge
import Shyam.Proof.Availability
import Shyam.Proof.SingleWriter
import Shyam.Proof.Restart
import Shyam.Proof.PinnedKeys
import Shyam.Proof.Injection
import Shyam.Proof.Revocation
import Shyam.Proof.TrustHistory
import Shyam.Proof.KeyFileCrashes
import Shyam.Lib.Sorted
import Shyam.Lib.Text
import Shyam.Discovery.Liveness
import Shyam.Discovery.Models
import Shyam.Discovery.Registry
import Shyam.Discovery.Ecosystem
import Shyam.Discovery.Peers
import Shyam.Navigation.Models
import Shyam.Navigation.Policy
import Shyam.Navigation.Candidates
import Shyam.Providers.Models
import Shyam.Providers.Zarya
import Shyam.Continuity.State
import Shyam.Continuity.Service
import Shyam.Continuity.Sessions
import Shyam.Continuity.World
import Shyam.Core.Runtime
import Shyam.Workflow.Models
import Shyam.Workflow.Engine
import Shyam.Proof.WorkflowTraces
import Shyam.Proof.WorkflowShape
import Shyam.Proof.WorkflowEvents
import Shyam.Proof.WorkflowCalls
import Shyam.Composite.Models
import Shyam.Composite.Engine
import Shyam.Proof.CompositeReferences
import Shyam.Proof.CompositeFlat
import Shyam.Proof.CompositeBindings
import Shyam.Events.Bus
import Shyam.Context.Models
import Shyam.Context.Store
import Shyam.Context.Service
import Shyam.Context.World
import Shyam.Proof.WorkflowOrder
import Shyam.Proof.ContextStore
import Shyam.Proof.ContinuityPipeline
import Shyam.Proof.ContinuityRuns
import Shyam.Proof.ObligedRun
import Shyam.Proof.ContinuityReports
import Shyam.Proof.UdpLiveness
import Shyam.Proof.WiredRuns
import Shyam.Proof.CrossDevice
import Shyam.Proof.Addresses
import Shyam.Proof.Announcements
import Shyam.Proof.ContinuityWorld
import Shyam.Proof.ContinuityTrust
import Shyam.Proof.BootstrapSync
import Shyam.Proof.FluxReachability
import Shyam.Proof.GossipTermination
import Shyam.Sync.Service
import Shyam.Bootstrap.Service
import Shyam.Bootstrap.Receiver
import Shyam.Bootstrap.Client
import Shyam.Proof.SyncGate
import Shyam.Sync.Serializer
import Shyam.Proof.CanonicalBytes
import Shyam.Proof.NavigationOrder
import Shyam.Proof.NavigationSelection
import Shyam.Proof.StateVersions
import Shyam.Proof.DatagramTotality
import Shyam.Proof.DiscoveryShutdown
import Shyam.Proof.FluxProtocol
import Shyam.Proof.VersionLattice
import Shyam.Workflow.Executors
import Shyam.Workflow.LocalFilesystem
import Shyam.Proof.FileSteps
import Shyam.Proof.WorkflowFiles
import Shyam.Core.Components
import Shyam.Proof.LocalDispatch
import Shyam.Discovery.Operations
import Shyam.Proof.RegistryEvents
import Shyam.Proof.RegistryInvariants
import Shyam.Proof.PeerSchema
import Shyam.Proof.Provenance
import Shyam.Proof.Staleness
import Shyam.Lib.Characters
import Shyam.Lib.Stages
import Shyam.Core.Validation
import Shyam.Core.Lifecycle
import Shyam.Proof.LifecycleRuns
import Shyam.Providers.Sovereign
import Shyam.Discovery.LocalNode
import Shyam.Core.Readiness
import Shyam.Proof.ReadinessEvents
import Shyam.Proof.ReadinessAgreement
import Shyam.Core.Start
import Shyam.Lib.Checks
import Shyam.Proof.LocalNode
import Shyam.Proof.LocalStart
import Shyam.Proof.ReadinessRuns
import Shyam.Proof.EventDispatch
import Shyam.Proof.ClientTrust
import Shyam.Proof.TrustAtomicity
import Shyam.Proof.RequestSignatures
import Shyam.Proof.BootstrapAttempts
import Shyam.Proof.WorkflowStepEvents
import Shyam.Lib.JsonReader
import Shyam.Lib.JsonPrinter
import Shyam.Lib.JsonRoundTrip
import Shyam.Lib.Broadcast
import Shyam.Discovery.Broadcasts
import Shyam.Proof.AnnouncementBytes
import Shyam.Proof.DiscoveryNetwork
import Shyam.Proof.DiscoveryExchange
import Shyam.Lib.Files
import Shyam.Lib.TextMode
import Shyam.Lib.Ledger
import Shyam.Providers.Registry
import Shyam.Proof.RegistryLog
import Shyam.Trust.StoreBytes
import Shyam.Proof.TrustDurability
import Shyam.Identity.Manager
import Shyam.Proof.IdentityStability
import Shyam.Proof.SyncAgreement
import Shyam.Lib.Substring
import Shyam.Lib.JsonFields
import Shyam.Providers.Eip1
import Shyam.Providers.ZaryaRequests
import Shyam.Proof.ZaryaWire
import Shyam.Surface.Coordinator
import Shyam.Surface.World
import Shyam.Proof.SurfaceRuns
import Shyam.Proof.ContinuityTargets
import Shyam.Providers.FluxRequests
import Shyam.Proof.FluxWire
import Shyam.Proof.ContinuityWire
import Shyam.Proof.SurfaceWire
import Shyam.Proof.SurfaceNetwork
import Shyam.Workflow.ZaryaExecutor
import Shyam.Proof.WorkflowSteps
import Shyam.Proof.ZaryaSteps
import Shyam.Workflow.FluxExecutor
import Shyam.Proof.FluxSteps
