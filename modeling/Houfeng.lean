import Houfeng.Activity.Proofs.FingerprintProofs
import Houfeng.Activity.Proofs.PagesProofs
import Houfeng.Attachments.Proofs.ActiveTextProofs
import Houfeng.Attachments.Proofs.ContentRangeProofs
import Houfeng.Auth.Proofs.RevocationProofs
import Houfeng.Center.Proofs.AuthorityProofs
import Houfeng.Center.Proofs.LiveEvidenceProofs
import Houfeng.Collaboration.Proofs.ExternalDeliveryProofs
import Houfeng.Evidence.Proofs.CapacityProofs
import Houfeng.Evidence.Proofs.ComparisonAlignmentProofs
import Houfeng.Evidence.Proofs.ComparisonIntentSignerProofs
import Houfeng.Evidence.Proofs.NumberProofs
import Houfeng.Evidence.Proofs.RedactionProofs
import Houfeng.HostSample.Proofs.ProviderProofs
import Houfeng.Incidents.Proofs.HeartbeatRecoveryProofs
import Houfeng.Portability.Proofs.ImportProofs
import Houfeng.Portability.Proofs.MarkdownProofs
import Houfeng.Probe.Proofs.ProviderProofs
import Houfeng.RecordPlatform.Proofs.IdempotencyProofs
import Houfeng.Records.Proofs.RevisionsProofs
import Houfeng.Retention.Proofs.RetentionProofs
import Houfeng.Search.Proofs.FilterProofs
import Houfeng.Search.Proofs.ServiceProofs
import Houfeng.Subscriptions.Proofs.PriceHistoryProofs
import Houfeng.SyncQueue.Proofs.CapacityProofs
