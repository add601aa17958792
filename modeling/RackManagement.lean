import RackManagement.Proofs.ScopeExclusion
import RackManagement.Proofs.NodeExclusion
import RackManagement.Proofs.ParentAgreement
import RackManagement.Proofs.ParentRefreshes
import RackManagement.Proofs.WorkflowGauge
import RackManagement.Proofs.ActivationProofs
import RackManagement.Proofs.PendingOwnership
import RackManagement.Proofs.FabricAtomicity
import RackManagement.Proofs.FirmwareFiles
import RackManagement.Proofs.LiteonAuthorisation
import RackManagement.Proofs.LiteonRetainedTask
import RackManagement.Proofs.CertificateReclamation
import RackManagement.Proofs.LayoutCompleteness
import RackManagement.Proofs.InventoryOrder
import RackManagement.Proofs.FlushReplies
import RackManagement.Proofs.FirmwareOrphans
import RackManagement.Proofs.ArtifactConfinement
import RackManagement.Proofs.EndpointConfinement
import RackManagement.Proofs.ScopeNormalization
import RackManagement.Proofs.ControllerOwnership
import RackManagement.Proofs.LinkDocuments
import RackManagement.Proofs.ConfigReadback
import RackManagement.Proofs.ConfigReconciliations
import RackManagement.Proofs.ReservationRollback
import RackManagement.Proofs.GroupHealth
import RackManagement.Proofs.InspectionErrors
import RackManagement.Proofs.PldmRanges
import RackManagement.Proofs.PldmUnpacking
import RackManagement.Proofs.SelectorNormalization
import RackManagement.Proofs.ScpTransfers
import RackManagement.Proofs.PrefetchCoverage
import RackManagement.Proofs.ExpectedVersions
import RackManagement.Proofs.SinkCommand
import RackManagement.Proofs.PldmIdentifiers
import RackManagement.Proofs.AddressHiding
import RackManagement.Proofs.BatchAdmission
import RackManagement.Proofs.Shutdown
