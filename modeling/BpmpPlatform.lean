import BpmpPlatform.Authorization.Revocation
import BpmpPlatform.Compiler.Coverage
import BpmpPlatform.Configuration.Publisher
import BpmpPlatform.ControlPlane.Cuckoo
import BpmpPlatform.ControlPlane.Permissions
import BpmpPlatform.ControlPlane.ReBac
import BpmpPlatform.ControlPlane.TemporalRefresh
import BpmpPlatform.ControlPlane.TenantLifecycle
import BpmpPlatform.Engine.BoundaryBatches
import BpmpPlatform.Engine.DispatchIdentity
import BpmpPlatform.Engine.GatewayLoading
import BpmpPlatform.Engine.LocalTaskCoverage
import BpmpPlatform.Engine.RemoteQueueRuns
import BpmpPlatform.Engine.RuleOrder
import BpmpPlatform.Engine.SnapshotReadable
import BpmpPlatform.Gateway.Backoff
import BpmpPlatform.Gateway.ClientBreaker
import BpmpPlatform.Gateway.Upstream
import BpmpPlatform.Governance.CompensationRuntime
import BpmpPlatform.Governance.DualControl
import BpmpPlatform.HumanRuntime.WorkItems
import BpmpPlatform.Keys.CurrentKey
import BpmpPlatform.Projection.EventQuery
import BpmpPlatform.Replication.LocalLimits
import BpmpPlatform.Replication.Transfer
import BpmpPlatform.Replication.Digest
import BpmpPlatform.Runtime.Compliance
import BpmpPlatform.Runtime.Containment
import BpmpPlatform.Runtime.Iterations
import BpmpPlatform.Store.ExactlyOnce
import BpmpPlatform.Store.LoadRuns
import BpmpPlatform.Store.PathsAgree
import BpmpPlatform.ControlPlane.ReBacCircuit
