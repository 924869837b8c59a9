import T2TouchId.Enrollment.Reconciliation
import T2TouchId.Effects
import T2TouchId.Enrollment.Feedback
import T2TouchId.Catacomb.Recovery
import T2TouchId.Python.Value
import T2TouchId.Fprint.MatchGate
import T2TouchId.Fprint.Probe
import T2TouchId.Fprint.Verdict
import T2TouchId.Journal.Readable
import T2TouchId.Journal.Tamper
import T2TouchId.Journal.Secrets
import T2TouchId.Enrollment.Gate
import T2TouchId.Journal.Enrollment.Identity
import T2TouchId.Journal.Reboot
import T2TouchId.Journal.Checked
import T2TouchId.Journal.Guarded
import T2TouchId.Journal.Persistence.Ambiguity
import T2TouchId.Journal.Irreversible
import T2TouchId.Enrollment.Faults
import T2TouchId.Journal.CatacombSync.Safety
import T2TouchId.Acm.Contexts
import T2TouchId.User.ActivationRecovery
import T2TouchId.User.Documents
import T2TouchId.User.Authority
import T2TouchId.User.ActivationInterrupted
import T2TouchId.User.BrokerHandoff
import T2TouchId.Enrollment.EventRuns
import T2TouchId.Packets.PolicyAnswers
import T2TouchId.Packets.Decoding
import T2TouchId.Catacomb.CodecErrors
import T2TouchId.Fprint.Reconciled
import T2TouchId.Catacomb.Edits
import T2TouchId.Catacomb.EditLaws
import T2TouchId.Aks.VerifySecret
import T2TouchId.Aks.State
import T2TouchId.Catacomb.SavePlan
import T2TouchId.Bridge.EnrollmentOrder
import T2TouchId.Acm.AuthorizedContext
import T2TouchId.Bridge.InventoryRecords
import T2TouchId.Bridge.Conversation
import T2TouchId.Packets.RuntimeProjection
import T2TouchId.Catacomb.Reachability
import T2TouchId.Identities.Recovery
import T2TouchId.Identities.RenameRecovery
import T2TouchId.Enrollment.Persistence
import T2TouchId.Enrollment.PersistenceOrder
