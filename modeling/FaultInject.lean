import FaultInject.Proof.AuditTables
import FaultInject.Proof.BatchTables
import FaultInject.Proof.Cleanup
import FaultInject.Proof.GroupVectors
import FaultInject.Proof.HybridCodes
import FaultInject.Proof.Negotiation
import FaultInject.Proof.OnPath
import FaultInject.Proof.PackageRuns
import FaultInject.Proof.Phantom
import FaultInject.Proof.RecordJson
import FaultInject.Proof.SshAlignment
import FaultInject.Proof.StripTail
import FaultInject.Proof.SurveyTable
import FaultInject.Proof.TsharkLines
import FaultInject.Proof.VerboseAudit
