import NicResidency.AuthorityFencing
import NicResidency.References
import NicResidency.Revalidation
import NicResidency.Replay
import NicResidency.WorkerEvidence
import NicResidency.Restart
import NicResidency.Retirement
import NicResidency.Library.Encoding
import NicResidency.Wire
import NicResidency.WireEvidence
import NicResidency.Library.Loops
import NicResidency.Persistence
import NicResidency.PersistenceRoundTrip
import NicResidency.Library.Grammar
import NicResidency.FileFormat
import NicResidency.Recovery
import NicResidency.Decisions
import NicResidency.Dependents
import NicResidency.LocalityEvidence
import NicResidency.Rejections
import NicResidency.AcceptedFiles
import NicResidency.Corruption
import NicResidency.Frames
import NicResidency.Incarnations
import NicResidency.ResidencyLog
import NicResidency.TerminalStates
import NicResidency.TopologyBinding
import NicResidency.Contents
import NicResidency.Hierarchy
import NicResidency.Library.NewestWins
import NicResidency.PublicationOrder
import NicResidency.Preference
import NicResidency.PolicyTightening
import NicResidency.Library.Ancestry
import NicResidency.TopologyBuilder
import NicResidency.Library.OrderedMap
import NicResidency.SharedAncestors
import NicResidency.SystemBackend
import NicResidency.SystemTopology
import NicResidency.LocalitySymmetry
import NicResidency.TopologyRenaming
import NicResidency.EvidenceLabels
import NicResidency.DegradedSelection
import NicResidency.CandidateBound
import NicResidency.Coordinator
import NicResidency.CoordinatorRestarts
import NicResidency.TargetNuma
import NicResidency.FreshnessLimit
import NicResidency.AcceptedCalls
import NicResidency.Republication
import NicResidency.Acknowledgement
import NicResidency.RevalidationRoom
import NicResidency.Takeover
import NicResidency.Ingestion
import NicResidency.Rediscovery
import NicResidency.SavedFiles
import NicResidency.WirePayloads
import NicResidency.NearestAncestors
import NicResidency.Library.ReadSafety
import NicResidency.BufferSafety
import NicResidency.PciIdentity
import NicResidency.Library.Noninterference
import NicResidency.Library.KeyedShare
import NicResidency.ResourceDivision
import NicResidency.Library.AtomicReplace
import NicResidency.DurableStore
import NicResidency.ProcessRestart
import NicResidency.Library.Utf8
import NicResidency.Library.Json
import NicResidency.Inspection
import NicResidency.ReportContents
import NicResidency.Library.Scan
import NicResidency.Library.Admission
import NicResidency.TopologyLimits
import NicResidency.FirstDiscovery
import NicResidency.HostDiscovery
import NicResidency.HostReport
import NicResidency.AcceleratorIds
import NicResidency.TopologyStaging
import NicResidency.SyntheticBackend
import NicResidency.EvidenceOrigin
import NicResidency.QueryAnswers
import NicResidency.InspectTool
import NicResidency.InspectAnswers
