import SplitTest.Experiment.Decode
import SplitTest.Experiment.Encode
import SplitTest.Json.Printer
import SplitTest.Rehearsal.Run
import SplitTest.Settings.Decode
import SplitTest.System
import SplitTest.Invalid
import SplitTest.Proofs.Program.Meets
import SplitTest.Proofs.Program.History
import SplitTest.Proofs.Service.Conduct
import SplitTest.Proofs.Service.Transaction
import SplitTest.Proofs.Service.Lawful
import SplitTest.Proofs.Store.Calls
import SplitTest.Proofs.Store.Requests
import SplitTest.Proofs.Service.Alone
import SplitTest.Proofs.System.Turn
import SplitTest.Proofs.System.Orderly
import SplitTest.Proofs.Store.Built
import SplitTest.Proofs.Store.Assignments
import SplitTest.Proofs.Store.Names
import SplitTest.Proofs.Store.Uniqueness
import SplitTest.Proofs.Store.References
import SplitTest.Proofs.Store.Reversal
import SplitTest.Proofs.Digest.Remainder
import SplitTest.Proofs.Uuid.Canonical
import SplitTest.Proofs.Bucket.Selection
import SplitTest.Proofs.Bucket.Order
import SplitTest.Proofs.Bucket.Threshold
import SplitTest.Proofs.Bucket.Keys
import SplitTest.Proofs.Assign.Prescribed
import SplitTest.Proofs.Assign.Sticky
import SplitTest.Proofs.System.Quiet
import SplitTest.Proofs.System.Pending
import SplitTest.Proofs.System.Erasures
import SplitTest.Proofs.Store.Experiments
import SplitTest.Proofs.Lifecycle.Evolution
import SplitTest.Proofs.Lifecycle.Revision
import SplitTest.Proofs.Lifecycle.StateMachine
import SplitTest.Proofs.Lifecycle.WellFormed
import SplitTest.Proofs.Lifecycle.LostUpdate
import SplitTest.Proofs.Rehearsal.Workplace
import SplitTest.Proofs.Rehearsal.Rollback
import SplitTest.Proofs.System.Isolation
import SplitTest.Proofs.Lifecycle.Creation
import SplitTest.Proofs.Lifecycle.Origin
import SplitTest.Proofs.Lifecycle.Naming
import SplitTest.Proofs.Service.Reverting
import SplitTest.Proofs.Assign.Outcome
import SplitTest.Proofs.Flag.Lookup
import SplitTest.Proofs.Flag.FailClosed
import SplitTest.Proofs.Flag.Scan
import SplitTest.Proofs.System.Ledger
import SplitTest.Proofs.Flag.Paging
import SplitTest.Proofs.Service.Tenancy
import SplitTest.Proofs.Store.Tenants
import SplitTest.Proofs.System.Tenancy
import SplitTest.Proofs.Flag.Interleaving
import SplitTest.Proofs.Settings.RoundTrip
import SplitTest.Proofs.Settings.Reading
import SplitTest.Proofs.Store.Aggregation
import SplitTest.Proofs.Service.Reading
import SplitTest.Proofs.Lifecycle.Schedule
import SplitTest.Proofs.Experiment.Grammar
import SplitTest.Proofs.Experiment.RoundTrip
import SplitTest.Proofs.Lifecycle.Import
import SplitTest.Proofs.Table
import SplitTest.Proofs.Store.Sequence
import SplitTest.Proofs.Store.Pages
import SplitTest.Proofs.Stats.Comparison
import SplitTest.Proofs.Lifecycle.Results
import SplitTest.Proofs.Numbers
import SplitTest.Proofs.Stats.Reductions
import SplitTest.Proofs.Lifecycle.Confidence
import SplitTest.Proofs.Service.Undisturbed
import SplitTest.Proofs.Assign.Decision
import SplitTest.Proofs.Service.Obeying
import SplitTest.Proofs.Store.Patch
import SplitTest.Proofs.Lifecycle.Patch
import SplitTest.Proofs.Store.Unwinding
import SplitTest.Proofs.Service.Sparing
import SplitTest.Proofs.Text.Digits
import SplitTest.Proofs.Timestamp.Calendar
import SplitTest.Proofs.Timestamp.Text
