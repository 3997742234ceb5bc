import CoreOps.Lib.Table
import CoreOps.Lib.Runs
import CoreOps.Lib.ReadCommitted
import CoreOps.Lib.RowHistory
import CoreOps.Lib.Reservation
import CoreOps.Lib.Checked
import CoreOps.Booking.Model
import CoreOps.Booking.Service
import CoreOps.Booking.NoDoubleBooking
import CoreOps.Booking.Concurrent
import CoreOps.Finance.Model
import CoreOps.Finance.Service
import CoreOps.Finance.Ledger
import CoreOps.Lib.RunningTotal
import CoreOps.Finance.Concurrent
import CoreOps.Lib.Dependency
import CoreOps.Modules.DependencyClosure
import CoreOps.Lib.Episode
import CoreOps.Overlay.Model
import CoreOps.Overlay.Policy
import CoreOps.Overlay.Guard
import CoreOps.Overlay.Service
import CoreOps.Overlay.Enforcement
import CoreOps.Lib.Serial
import CoreOps.Overlay.Concurrent
import CoreOps.Lib.Certificate
import CoreOps.Marketing.Model
import CoreOps.Marketing.Preflight
import CoreOps.Marketing.Packs
import CoreOps.Marketing.ApprovedContent
import CoreOps.Lib.Program
import CoreOps.Secrets.Adapters
import CoreOps.Secrets.Lifecycle
import CoreOps.Secrets.Revocation
import CoreOps.Secrets.Bound
import CoreOps.Secrets.Recovery
import CoreOps.Imports.Model
import CoreOps.Imports.Runner
import CoreOps.Imports.Idempotence
import CoreOps.Imports.Rollback
import CoreOps.Overlay.Frame
import CoreOps.Overlay.Requirements
import CoreOps.AI.Service
import CoreOps.AI.Terminal
import CoreOps.Overlay.Termination
import CoreOps.AI.Concurrent
import CoreOps.Lib.Numbering
import CoreOps.Booking.OrderNumbers
import CoreOps.DocumentNumbers
import CoreOps.Lib.Json
import CoreOps.Lib.JsonText
import CoreOps.Lib.JsonObject
import CoreOps.Marketing.PackStatus
import CoreOps.Marketing.TopicPacks
import CoreOps.Marketing.ContentPlanImport
import CoreOps.Marketing.PlanLifecycle
import CoreOps.Marketing.PlanTopics
import CoreOps.Lib.SlidingWindow
import CoreOps.PublicLeads.RateLimit
import CoreOps.Lib.CharTables
import CoreOps.Parties.Matching
import CoreOps.Parties.Service
import CoreOps.Parties.Directory
import CoreOps.PublicLeads.Dedup
import CoreOps.Finance.InvoiceMoney
import CoreOps.Finance.Summary
import CoreOps.Finance.Metering
import CoreOps.DryRun.Model
import CoreOps.DryRun.Pipeline
import CoreOps.DryRun.ErrorRows
import CoreOps.DryRun.Gate
import CoreOps.Imports.Postings
import CoreOps.Imports.Plan
import CoreOps.Lib.Lockstep
import CoreOps.Secrets.Interchange
import CoreOps.Lib.UniqueIndex
import CoreOps.Marketing.PublishDestinations
import CoreOps.Marketing.DestinationLifecycle
import CoreOps.Marketing.Guides
import CoreOps.Marketing.GuideVersions
import CoreOps.Marketing.StorageProfiles
import CoreOps.Imports.SourceRows
import CoreOps.Imports.CarryOver
import CoreOps.Imports.CarriedSource
import CoreOps.Imports.Ledger
import CoreOps.Imports.Registry
import CoreOps.Publishers.Values
import CoreOps.Lib.Effects
import CoreOps.Lib.Sweep
import CoreOps.Publishers.Texts
import CoreOps.Publishers.Packs
import CoreOps.Publishers.Channels
import CoreOps.Publishers.AtMostOnce
import CoreOps.Publishers.Isolation
import CoreOps.Booking.HoldContents
import CoreOps.Booking.LazyExpiry
import CoreOps.Booking.HoldTransaction
import CoreOps.Finance.InvoiceArithmetic
import CoreOps.Finance.Overdue
import CoreOps.Finance.CompatibleMoney
import CoreOps.Content.Markdown
import CoreOps.Content.Insights
import CoreOps.Content.Pages
import CoreOps.Content.Mirror
import CoreOps.Secrets.Pool
import CoreOps.Secrets.OnlyBound
import CoreOps.References.Model
import CoreOps.References.Isolation
import CoreOps.Modules.EnableOrder
import CoreOps.Overlay.StageMoves
import CoreOps.Parties.Normalization
import CoreOps.Overlay.CustomFields
import CoreOps.Workflows.LeadAutomation
import CoreOps.Workflows.OneTask
import CoreOps.Lib.JsonPath
import CoreOps.DryRun.Masking
import CoreOps.Lib.Positional
import CoreOps.Secrets.Aad
import CoreOps.Secrets.Envelope
import CoreOps.Lib.Scan
import CoreOps.References.Rendering
import CoreOps.Lib.FileSystem
import CoreOps.Documents.SignedFile
import CoreOps.Lib.UuidText
import CoreOps.Lib.UrlSplit
import CoreOps.Lib.CheckedLoops
import CoreOps.DryRun.Accounting
import CoreOps.Lib.ProgramLatch
import CoreOps.Secrets.Compensation
import CoreOps.Lib.FileTree
import CoreOps.Marketing.PackTexts
import CoreOps.Marketing.ImportPreview
import CoreOps.Lib.CivilDate
import CoreOps.Marketing.ImportFingerprint
import CoreOps.Marketing.HistoricalPublish
import CoreOps.Lib.JsonSchema
import CoreOps.Marketing.PlanSchema
import CoreOps.Marketing.ManagedMedia
import CoreOps.Lib.Importer
import CoreOps.IndustryTemplates.Apply
import CoreOps.Secrets.Recovered
import CoreOps.Marketing.PublicUrl
import CoreOps.Marketing.PublicHosts
import CoreOps.Content.Blocks
import CoreOps.Content.RoundTrip
import CoreOps.Content.Wrapping
import CoreOps.Finance.Currencies
import CoreOps.Imports.SourceAllowlist
import CoreOps.Parties.CustomFields
import CoreOps.Publishers.Chunks
import CoreOps.Tenants.Access
import CoreOps.Publishers.Redaction
import CoreOps.Secrets.RefText
import CoreOps.Ops.Activation
import CoreOps.Ops.Rollback
import CoreOps.Ops.Fingerprint
import CoreOps.Ops.Bootstrap
import CoreOps.Ops.FailedApply
import CoreOps.Ops.Prediction
