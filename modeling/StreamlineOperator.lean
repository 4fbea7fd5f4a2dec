import StreamlineOperator.Foundation.Program
import StreamlineOperator.Foundation.TraceLogic
import StreamlineOperator.Foundation.Interleaving
import StreamlineOperator.Foundation.Text
import StreamlineOperator.Foundation.Json
import StreamlineOperator.Foundation.JsonText
import StreamlineOperator.Foundation.ServedRuns
import StreamlineOperator.Foundation.Ownership
import StreamlineOperator.Foundation.Toml
import StreamlineOperator.Foundation.TomlTables
import StreamlineOperator.Foundation.TomlText
import StreamlineOperator.Foundation.TomlLines
import StreamlineOperator.Foundation.NumberFormat
import StreamlineOperator.Foundation.MachineArithmetic
import StreamlineOperator.Foundation.Thresholds
import StreamlineOperator.Foundation.Exposition
import StreamlineOperator.Foundation.Histogram
import StreamlineOperator.Foundation.Histories
import StreamlineOperator.Foundation.Words
import StreamlineOperator.Foundation.Unreliable
import StreamlineOperator.Foundation.Isolation
import StreamlineOperator.Foundation.Linearization
import StreamlineOperator.Foundation.StructuralSchema
import StreamlineOperator.Foundation.SchemaLeaves
import StreamlineOperator.Foundation.FailFast
import StreamlineOperator.Metrics
import StreamlineOperator.DurationDistribution
import StreamlineOperator.Health
import StreamlineOperator.Upgrade
import StreamlineOperator.Crd.Cluster
import StreamlineOperator.Conditions
import StreamlineOperator.Kubernetes.Objects
import StreamlineOperator.Kubernetes.Workload
import StreamlineOperator.Crd.Status
import StreamlineOperator.Crd.Topic
import StreamlineOperator.Crd.User
import StreamlineOperator.Crd.Resource
import StreamlineOperator.Crd.ClusterDecode
import StreamlineOperator.Crd.Definitions
import StreamlineOperator.Kubernetes.Api
import StreamlineOperator.Kubernetes.ServerSideApply
import StreamlineOperator.Kubernetes.LossyServer
import StreamlineOperator.Kubernetes.Rbac
import StreamlineOperator.Kubernetes.Names
import StreamlineOperator.Controllers.StatusBuild
import StreamlineOperator.Controllers.StatusReports
import StreamlineOperator.Controllers.StatusHistory
import StreamlineOperator.Controllers.ClusterStatus
import StreamlineOperator.Controllers.TopicStatus
import StreamlineOperator.Controllers.UserStatus
import StreamlineOperator.Controllers.StatusPublication
import StreamlineOperator.Controllers.ClusterRender
import StreamlineOperator.Controllers.Autoscaling
import StreamlineOperator.Controllers.Recommendation
import StreamlineOperator.Controllers.RecommendationBounds
import StreamlineOperator.Controllers.RecommendationControl
import StreamlineOperator.Controllers.Cluster
import StreamlineOperator.Controllers.ClusterReconcile
import StreamlineOperator.Controllers.ClusterOwnership
import StreamlineOperator.Controllers.ClusterKernel
import StreamlineOperator.Controllers.Environment
import StreamlineOperator.Controllers.EnvironmentEntries
import StreamlineOperator.Controllers.LegalNames
import StreamlineOperator.Controllers.ConfigFile
import StreamlineOperator.Controllers.Topic
import StreamlineOperator.Controllers.TopicGate
import StreamlineOperator.Controllers.User
import StreamlineOperator.Controllers.ScaleToZero
import StreamlineOperator.Controllers.ScaleToZeroRuns
import StreamlineOperator.Controllers.ScaleActions
import StreamlineOperator.Controllers.Addresses
import StreamlineOperator.Controllers.Cleanup
import StreamlineOperator.Controllers.Finalizers
import StreamlineOperator.Controllers.FirstWrite
import StreamlineOperator.Controllers.TopicLifecycle
import StreamlineOperator.Controllers.Rollout
import StreamlineOperator.Controllers.Retries
import StreamlineOperator.Controllers.ReconcileIsolation
import StreamlineOperator.Controllers.ReconcileOverlap
import StreamlineOperator.Controllers.RolloutEdits
import StreamlineOperator.Controllers.TlsMounts
import StreamlineOperator.Controllers.ObservedStatus
import StreamlineOperator.Controllers.TopicVerdict
import StreamlineOperator.Controllers.TopicReport
import StreamlineOperator.Controllers.ReconcileAccount
import StreamlineOperator.Controllers.TopicAccount
import StreamlineOperator.Controllers.ReconcileCounters
import StreamlineOperator.Controllers.Rescheduling
import StreamlineOperator.Controllers.SpecVerdict
import StreamlineOperator.Controllers.AcceptedPatches
import StreamlineOperator.CloudFixture
import StreamlineOperator.UpgradePatches
import StreamlineOperator.UpgradeOrder
import StreamlineOperator.Controllers.OperatorHub
import StreamlineOperator.Controllers.OperatorHubRuns
import StreamlineOperator.Controllers.HubService
import StreamlineOperator.Controllers.HubLinearizability
import StreamlineOperator.Controllers.HubVersions
import StreamlineOperator.LeaderElection.Lease
import StreamlineOperator.LeaderElection.Elector
import StreamlineOperator.LeaderElection.Protocol
import StreamlineOperator.LeaderElection.Replicas
import StreamlineOperator.LeaderElection.OneLeader
import StreamlineOperator.LeaderElection.Handover
import StreamlineOperator.LeaderElection.Tenures
import StreamlineOperator.LeaderElection.Failover
import StreamlineOperator.Controllers.Authorization
