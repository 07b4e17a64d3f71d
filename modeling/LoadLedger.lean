import LoadLedger.Main
import LoadLedger.Sampler.Script
import LoadLedger.Lock.Waiters
import LoadLedger.Json.Printer
import LoadLedger.Proofs.Ledger.Merging
import LoadLedger.Proofs.Ledger.Sampling
import LoadLedger.Proofs.Ledger.Runs
import LoadLedger.Proofs.Ledger.Intervals
import LoadLedger.Proofs.Number.FloatRange
import LoadLedger.Proofs.Ledger.Totals
import LoadLedger.Proofs.Sampler.Quiet
import LoadLedger.Proofs.Ingestion.Runs
import LoadLedger.Proofs.Lock.Exclusion
import LoadLedger.Proofs.Lock.Wakeup
import LoadLedger.Proofs.Ledger.RecentErrors
import LoadLedger.Proofs.Ledger.Windows
import LoadLedger.Proofs.Number.IntegerRange
import LoadLedger.Proofs.Values
import LoadLedger.Proofs.Json.Writable
import LoadLedger.Proofs.Outcome.Reading
import LoadLedger.Proofs.Replay.Runs
import LoadLedger.Proofs.Tool
import LoadLedger.Proofs.Ledger.Interleavings
import LoadLedger.Proofs.Ledger.Transactions
import LoadLedger.Proofs.Outcome.Records
import LoadLedger.Proofs.Outcome.Refusals
import LoadLedger.Proofs.Outcome.Acceptance
import LoadLedger.Proofs.Number.Positive
import LoadLedger.Proofs.Settings.Accepted
import LoadLedger.Proofs.Json.Limits
import LoadLedger.Proofs.Settings.Escapes
import LoadLedger.Proofs.Settings.File
import LoadLedger.Proofs.Tool.Settings
import LoadLedger.Proofs.Text.Blocks
import LoadLedger.Proofs.Outcome.Lines
import LoadLedger.Proofs.Arguments
import LoadLedger.Proofs.Ledger.Reports
import LoadLedger.Proofs.Tool.Input
import LoadLedger.Proofs.Ingestion.Histories
import LoadLedger.Proofs.Ingestion.Bookkeeping
import LoadLedger.Proofs.Lock.Looking
import LoadLedger.Proofs.Lock.Preference
import LoadLedger.Proofs.Replay.Delivery
import LoadLedger.Proofs.Sampler.Service
import LoadLedger.Proofs.Sampler.Passes
import LoadLedger.Proofs.Sampler.Steps
import LoadLedger.Proofs.Sampler.Lifecycle
import LoadLedger.Proofs.Ingestion.Crew
import LoadLedger.Proofs.Ingestion.OneLoop
import LoadLedger.Proofs.Replay.Failure
import LoadLedger.Proofs.Lock.Interruption
import LoadLedger.Proofs.Sampler.Accounting
import LoadLedger.Proofs.Replay.Production
import LoadLedger.Proofs.Text.Lines
import LoadLedger.Proofs.Json.Spelling
import LoadLedger.Proofs.Outcome.JsonLines
import LoadLedger.Proofs.Counts
import LoadLedger.Proofs.Ledger.Rates
import LoadLedger.Proofs.Ledger.Tables
import LoadLedger.Proofs.Counts.Validation
import LoadLedger.Proofs.SlidingWindow
import LoadLedger.Proofs.RecentLog
