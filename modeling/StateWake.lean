import StateWake.Base.Utf8
import StateWake.Base.Lines
import StateWake.Base.Error
import StateWake.Base.Decimal
import StateWake.Base.Datetime
import StateWake.Base.Sha256
import StateWake.Base.Dict
import StateWake.Base.Json
import StateWake.Base.JsonTruncated
import StateWake.Base.KeyedHistory
import StateWake.Reliability.Transition
import StateWake.Reliability.History
import StateWake.Reliability.Jsonl
import StateWake.Reliability.Sqlite
import StateWake.Reliability.Equivalence
import StateWake.Reliability.Crash
import StateWake.Base.Interleaving
import StateWake.Reliability.EvidenceChain
import StateWake.Reliability.Service
import StateWake.Reliability.Interleaved
import StateWake.Base.Base64
import StateWake.Base.RegisterHistory
import StateWake.Base.LineLog
import StateWake.Base.Calls
import StateWake.Trust.AttestationTrust
import StateWake.Trust.AttestationTransition
import StateWake.Trust.TrustHistory
import StateWake.Trust.TrustCheckpoint
import StateWake.Trust.TrustAnchorStore
import StateWake.Attestation.Outcome
import StateWake.Attestation.Binding
import StateWake.Attestation.Store
import StateWake.Attestation.History
import StateWake.Attestation.Service
import StateWake.Attestation.Calls
import StateWake.Attestation.Progress
import StateWake.Attestation.Building
import StateWake.Attestation.Idempotence
import StateWake.Attestation.Concurrency
import StateWake.Attestation.Verification
import StateWake.Attestation.Persistence
import StateWake.Security.Deployment
import StateWake.Security.Audit
import StateWake.Lifecycle.DataLifecycle
import StateWake.Lifecycle.ContentStore
import StateWake.Review.Statement
import StateWake.Reliability.Reconciliation
import StateWake.Lifecycle.EvidenceReceipt
import StateWake.Lifecycle.Workspace
import StateWake.Lifecycle.SharedEvidence
import StateWake.Claims.ClaimProfile
import StateWake.Operations.Bundle
import StateWake.Operations.Disclosure
import StateWake.Provenance.Graph
import StateWake.Reliability.Comparison
import StateWake.Base.Search
import StateWake.Reliability.Lineage
import StateWake.Operations.Assembly
import StateWake.Operations.RoundTrip
import StateWake.Review.StatementStore
import StateWake.Base.Logged
import StateWake.Security.ReviewRoutes
import StateWake.Lifecycle.RunIndex
import StateWake.Lifecycle.Opening
import StateWake.Lifecycle.ReceiptRoundTrip
import StateWake.Lifecycle.Deletion
import StateWake.Lifecycle.Ingestion
import StateWake.Lifecycle.Verification
import StateWake.Lifecycle.Verifiability
import StateWake.Lifecycle.Exports
import StateWake.Lifecycle.Interruption
import StateWake.ReleaseTrust.Publication
import StateWake.ReleaseTrust.Registry
import StateWake.ReleaseTrust.RegistryFiles
import StateWake.ReleaseTrust.Reconciliation
import StateWake.ReleaseTrust.Agreement
import StateWake.ReleaseTrust.Bundle
import StateWake.ReleaseTrust.Authenticity
import StateWake.ReleaseTrust.Authenticated
import StateWake.Base.DatetimeOrder
import StateWake.Lifecycle.RecordIndex
import StateWake.Base.Grouping
import StateWake.Incident.Evidence
import StateWake.Incident.Store
import StateWake.Incident.RoundTrip
import StateWake.Incident.Investigation
import StateWake.Provenance.IntegrityProof
import StateWake.Base.Alignment
import StateWake.Reliability.ActionChanges
import StateWake.Reliability.RunComparison
import StateWake.Lifecycle.FileIngestion
import StateWake.Lifecycle.ReceiptStore
import StateWake.Claims.AIContracts
import StateWake.Claims.BuiltinProfiles
import StateWake.Claims.ContractEvidence
import StateWake.Claims.Satisfiability
import StateWake.Base.JsonPath
import StateWake.Security.Redaction
import StateWake.Base.Paging
import StateWake.Lifecycle.RecordQuery
import StateWake.Claims.WorkspaceClaims
import StateWake.Incident.Snapshot
import StateWake.Lifecycle.Deadlines
import StateWake.Operations.Retention
import StateWake.Base.Raising
import StateWake.Lifecycle.RetentionHistory
import StateWake.Lifecycle.LifecycleContext
import StateWake.Base.Csv
import StateWake.Lifecycle.CsvExport
import StateWake.Assurance.Operations
import StateWake.Assurance.Decoding
import StateWake.Assurance.Replay
import StateWake.Assurance.Exceptions
import StateWake.Reliability.ChainCodec
import StateWake.Reliability.EventCodec
import StateWake.Reliability.CoreRecords
import StateWake.Base.Sessions
import StateWake.Telemetry.Projection
import StateWake.Telemetry.Spans
import StateWake.Base.Framed
import StateWake.Reports.Report
import StateWake.Reports.Markdown
import StateWake.Incident.Continuity
import StateWake.Base.Forest
import StateWake.Review.Corrections
import StateWake.Lifecycle.Admission
import StateWake.Base.Attempt
import StateWake.Integrations.Callbacks
import StateWake.Integrations.Correlation
import StateWake.Integrations.Spans
import StateWake.Base.Window
import StateWake.Integrations.Instrumentation
import StateWake.Integrations.Retrievals
import StateWake.Base.JsonBytes
import StateWake.Security.Containment
import StateWake.Base.FirstFailure
import StateWake.Operations.ArchiveReading
import StateWake.Integrations.FailureJournal
import StateWake.Integrations.NativeSink
import StateWake.Base.FirstCome
import StateWake.Presentation.TraceDigest
