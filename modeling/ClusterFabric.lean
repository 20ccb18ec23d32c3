import ClusterFabric.Verify.Epochs
import ClusterFabric.Verify.Durability
import ClusterFabric.Verify.ClusterIdentity
import ClusterFabric.Verify.Replay
import ClusterFabric.Verify.Coherence
import ClusterFabric.Verify.WeakEvidence
import ClusterFabric.Verify.Freshness
import ClusterFabric.Verify.Corruption
import ClusterFabric.Verify.Readiness
import ClusterFabric.Verify.Reads
import ClusterFabric.Verify.Reports
import ClusterFabric.Verify.Aggregates
import ClusterFabric.Verify.Containers
import ClusterFabric.Verify.Handshake
import ClusterFabric.Verify.Numbering
import ClusterFabric.Verify.Accounting
import ClusterFabric.Verify.OrderFree
import ClusterFabric.Verify.ReasonOrder
import ClusterFabric.Verify.Enumerators
import ClusterFabric.Verify.Digest
import ClusterFabric.Verify.Submissions
import ClusterFabric.Verify.FileStore
