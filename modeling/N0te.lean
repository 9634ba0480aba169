import N0te.Governance.MutationGateway
import N0te.Lease.Recovery
import N0te.Lineage.LineageInvariant
import N0te.Shadow.Projection
import N0te.Musical.Stranding
import N0te.Governance.ChangeScope
import N0te.Midi.TimingProbe
import N0te.Credits.SplitSheets
import N0te.Obligations.ObligationRuns
import N0te.People.IdentityReviews
import N0te.Sessions.SessionRuns
import N0te.Governance.SnapshotExpiry
import N0te.Capabilities.Negotiation
import N0te.Evidence.Visibility
import N0te.Governance.ProgramEvaluation
import N0te.Migration.SchemaMigration
import N0te.References.ReferenceRuns
import N0te.Suggestions.DeferralHistory
import N0te.Tools.ToolInventoryRuns
import N0te.Musical.PlanPreparation
import N0te.Routes.CapabilityResolver
import N0te.Relevance.RelevanceBroker
import N0te.Calibration.ReferenceRanking
import N0te.Audio.TimingCandidates
import N0te.Audio.SampleReader
import N0te.Capabilities.SnapshotIntegrity
import N0te.Uninstall.RemovalSafety
import N0te.Discovery.ScanCompleteness
import N0te.Calibration.EvidenceTransport
import N0te.Lease.RuntimePairing
import N0te.Hosts.VolumePayload
import N0te.Midi.ClockTracker
import N0te.Capabilities.CompositeKeys
import N0te.Audition.ByteRange
import N0te.Audio.RelationshipWindows
import N0te.Audition.MediaInspection
import N0te.Decisions.DecisionRuns
import N0te.Artist.AppendRuns
import N0te.Shadow.AttachmentRuns
import N0te.Uploads.UploadRoundTrip
import N0te.Update.UpdateRuns
