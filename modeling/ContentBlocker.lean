import ContentBlocker.Api.Server
import ContentBlocker.Compile.History
import ContentBlocker.Compile.Threads
import ContentBlocker.Main
import ContentBlocker.Manager.Operation
import ContentBlocker.Settings
import ContentBlocker.Throttle.History
import ContentBlocker.Proofs.Api.StaticRules
import ContentBlocker.Proofs.Compile.Agreement
import ContentBlocker.Proofs.Compile.Answers
import ContentBlocker.Proofs.Compile.Coalescing
import ContentBlocker.Proofs.Compile.OpenGates
import ContentBlocker.Proofs.Compile.Shelf
import ContentBlocker.Proofs.Compile.Slots
import ContentBlocker.Proofs.Computations
import ContentBlocker.Proofs.Decimal.WholeNumbers
import ContentBlocker.Proofs.Failure.Lengths
import ContentBlocker.Proofs.Json.Canonical
import ContentBlocker.Proofs.Json.Fields
import ContentBlocker.Proofs.Json.Kinds
import ContentBlocker.Proofs.Lists
import ContentBlocker.Proofs.Manager.Coherence
import ContentBlocker.Proofs.Manager.Failures
import ContentBlocker.Proofs.Manager.Idle
import ContentBlocker.Proofs.Manager.Isolation
import ContentBlocker.Proofs.Manager.Removal
import ContentBlocker.Proofs.Manager.Rest
import ContentBlocker.Proofs.Manager.Restriction
import ContentBlocker.Proofs.Manager.Resubmission
import ContentBlocker.Proofs.Message.Answers
import ContentBlocker.Proofs.Message.Disclosure
import ContentBlocker.Proofs.Message.Grammar
import ContentBlocker.Proofs.Offline.Agreement
import ContentBlocker.Proofs.Offline.Reports
import ContentBlocker.Proofs.Offline.Runs
import ContentBlocker.Proofs.Regex.Plain
import ContentBlocker.Proofs.Rule.Acceptance
import ContentBlocker.Proofs.Rule.Batches
import ContentBlocker.Proofs.Rule.Projection
import ContentBlocker.Proofs.Rule.RoundTrip
import ContentBlocker.Proofs.RuleList.Acceptance
import ContentBlocker.Proofs.RuleList.Accounting
import ContentBlocker.Proofs.RuleList.Domains
import ContentBlocker.Proofs.RuleList.Encoding
import ContentBlocker.Proofs.RuleList.Filters
import ContentBlocker.Proofs.RuleList.Patterns
import ContentBlocker.Proofs.RuleList.Validation
import ContentBlocker.Proofs.Store.Changes
import ContentBlocker.Proofs.Store.Limits
import ContentBlocker.Proofs.Store.Log
import ContentBlocker.Proofs.Store.Restriction
import ContentBlocker.Proofs.Store.Rulesets
import ContentBlocker.Proofs.Store.Switches
import ContentBlocker.Proofs.Table
import ContentBlocker.Proofs.Text.Lines
import ContentBlocker.Proofs.Threads.Exclusion
import ContentBlocker.Proofs.Threads.Pool
import ContentBlocker.Proofs.Threads.Results
import ContentBlocker.Proofs.Threads.Schedules
import ContentBlocker.Proofs.Threads.Tickets
import ContentBlocker.Proofs.Throttle.Clients
import ContentBlocker.Proofs.Throttle.Grants
