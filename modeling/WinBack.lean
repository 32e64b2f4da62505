import WinBack.Library.Table
import WinBack.Library.Machine
import WinBack.Library.Pool
import WinBack.Library.Object
import WinBack.Library.Shape
import WinBack.Library.Fallible
import WinBack.Library.LastWrite
import WinBack.Library.Quantile
import WinBack.Library.Bucket
import WinBack.Library.Substitution
import WinBack.Library.Paging
import WinBack.Library.Trail
import WinBack.Library.Upserts
import WinBack.Library.Crash
import WinBack.Library.Numeral
import WinBack.Library.Positional
import WinBack.Library.BitString
import WinBack.Library.Replace
import WinBack.Library.Cursor
import WinBack.Library.Service
import WinBack.Schema
import WinBack.Campaign.Repository
import WinBack.Campaign.Transitions
import WinBack.Campaign.Ledger
import WinBack.Email.Ses
import WinBack.Dispatch.Calls
import WinBack.Dispatch.Worker
import WinBack.Dispatch.Sweep
import WinBack.Dispatch.Phases
import WinBack.Dispatch.System
import WinBack.Dispatch.Effects
import WinBack.Dispatch.Ownership
import WinBack.Dispatch.AtMostOnce
import WinBack.Dispatch.LostAck
import WinBack.Dispatch.Accepted
import WinBack.Dispatch.Deferred
import WinBack.Dispatch.Expiry
import WinBack.Dispatch.Consistent
import WinBack.Dispatch.Orphan
import WinBack.Dispatch.Stopped
import WinBack.Dispatch.Subjects
import WinBack.Dispatch.Progress
import WinBack.Dispatch.Frequency
import WinBack.Dispatch.Quota
import WinBack.Customer.Repository
import WinBack.Customer.Snapshot
import WinBack.Customer.Ingestion
import WinBack.Customer.Orders
import WinBack.Customer.Qualifying
import WinBack.Customer.Scoring
import WinBack.Customer.Generation
import WinBack.Orders.Money
import WinBack.Orders.Amount
import WinBack.Orders.Repository
import WinBack.Orders.Node
import WinBack.Orders.Encodings
import WinBack.Orders.Writes
import WinBack.Orders.Agreement
import WinBack.Orders.Coarse
import WinBack.Crypto.Base32
import WinBack.Shopify.DiscountCode
import WinBack.Generation.Pricing
import WinBack.Generation.Worker
import WinBack.Generation.Discount
import WinBack.Generation.System
import WinBack.Generation.Ledger
import WinBack.Generation.Passes
import WinBack.Generation.FailureAudits
import WinBack.Generation.Attempts
import WinBack.Shopify.Admin
import WinBack.Shopify.CostTracker
import WinBack.Shopify.Budget
import WinBack.Shopify.Minting
import WinBack.Shopify.Install
import WinBack.Shopify.Backfill
import WinBack.Shopify.Resync
import WinBack.Shopify.Lifecycle
import WinBack.Shopify.Stale
import WinBack.Shopify.Runner
import WinBack.Shopify.Standing
import WinBack.Shopify.Reruns
import WinBack.Shopify.Resources
import WinBack.Shopify.CrashSafe
import WinBack.Shopify.Accounting
import WinBack.Scoring.Math
import WinBack.Scoring.Cohort
import WinBack.Scoring.Service
import WinBack.Scoring.Effect
import WinBack.Scoring.Sweep
import WinBack.Scoring.Decay
import WinBack.Scoring.Agreement
import WinBack.Scoring.Deleted
import WinBack.Scoring.FirstPass
import WinBack.Scoring.Transactions
import WinBack.Scoring.Chain
import WinBack.Scoring.Bands
import WinBack.Scoring.Quintiles
import WinBack.Scoring.Announced
import WinBack.Scoring.Webhooks
import WinBack.Scoring.Lifetime
import WinBack.Scoring.Insufficient
import WinBack.Scoring.Reflected
import WinBack.Scoring.Arrival
import WinBack.Scoring.Overtaken
import WinBack.Compliance.Redact
import WinBack.Customer.Novelty
import WinBack.Compliance.ShopRemains
import WinBack.Compliance.History
import WinBack.Compliance.Linked
import WinBack.Compliance.Erasure
import WinBack.Compliance.Touched
import WinBack.Dispatch.Removal
import WinBack.Tenant.Models
import WinBack.Tenant.AiTone
import WinBack.Tenant.Hooks
import WinBack.Tenant.Engine
import WinBack.Tenant.ReadIsolation
import WinBack.Tenant.WriteHooks
import WinBack.Tenant.WriteIsolation
import WinBack.Scoring.Listing
import WinBack.Outbox.Repository
import WinBack.Outbox.Payloads
import WinBack.Outbox.Handlers
import WinBack.Outbox.Drainer
import WinBack.Outbox.System
import WinBack.Outbox.Phases
import WinBack.Outbox.Redelivery
import WinBack.Outbox.Tick
import WinBack.Outbox.Rounds
import WinBack.Outbox.Operator
import WinBack.Outbox.Terminal
import WinBack.Outbox.RateLimiter
import WinBack.Outbox.HourlyCap
import WinBack.Spend.System
import WinBack.Spend.Cap
import WinBack.Webhook.Ingest
import WinBack.Webhook.System
import WinBack.Webhook.Envelope
import WinBack.Webhook.Once
import WinBack.Customer.Newest
import WinBack.Orders.Newest
import WinBack.Compliance.InFlight
import WinBack.Pipeline.Texts
import WinBack.Pipeline.Visible
import WinBack.Web.Loaders
import WinBack.Tenant.Programs
import WinBack.Generation.Outages
import WinBack.Shopify.SessionStorage
import WinBack.Web.Bootstraps
import WinBack.Library.Isolated
import WinBack.Scoring.DecaySweep
import WinBack.Shopify.Enrichment
import WinBack.Outbox.Prompt
import WinBack.Outbox.Prompts
