import TextMigration.Main
import TextMigration.Proofs.Search.Places
import TextMigration.Store.Memory
import TextMigration.Proofs.Text.Occurrence
import TextMigration.Proofs.Text.Separate
import TextMigration.Proofs.Matching.Cuts
import TextMigration.Proofs.Matching.Anchors
import TextMigration.Proofs.Rewriting.Applying
import TextMigration.Proofs.Text.Slice
import TextMigration.Proofs.Rewriting.Splice
import TextMigration.Proofs.Rewriting.SingleShot
import TextMigration.Proofs.Running.Fold
import TextMigration.Proofs.Running.Separated
import TextMigration.Proofs.Checking.Accepted
import TextMigration.Proofs.Rewriting.Rest
import TextMigration.Proofs.Running.Rerun
import TextMigration.Proofs.Matching.Layout
import TextMigration.Proofs.Rewriting.Commute
import TextMigration.Proofs.Rewriting.Verdict
import TextMigration.Proofs.Running.Recheck
import TextMigration.Proofs.Storing.Memory
import TextMigration.Proofs.Storing.Calls
import TextMigration.Proofs.Running.Changed
import TextMigration.Proofs.Checking.Expected
import TextMigration.Proofs.Running.Compose
import TextMigration.Proofs.Running.Success
import TextMigration.Proofs.Rewriting.Sparing
import TextMigration.Proofs.Search.Language
import TextMigration.Proofs.Search.Walk
import TextMigration.Proofs.Rewriting.Tightening
import TextMigration.Proofs.Running.Ordered
import TextMigration.Proofs.Running.Landing
import TextMigration.Proofs.Running.Undone
import TextMigration.Proofs.Checking.Described
import TextMigration.Proofs.Checking.Reported
import TextMigration.Proofs.Reporting.Accounts
import TextMigration.Proofs.Text.Places
import TextMigration.Proofs.Packing.Greedy
import TextMigration.Proofs.Packing.Literal
import TextMigration.Proofs.Packing.Needles
import TextMigration.Proofs.Packing.Blocks
import TextMigration.Proofs.Running.Lookup
import TextMigration.Proofs.Running.Excused
import TextMigration.Proofs.Rewriting.Inserted
import TextMigration.Proofs.Rewriting.Guarded
import TextMigration.Proofs.Rewriting.Coherent
import TextMigration.Proofs.Checking.Refused
import TextMigration.Proofs.Checking.Presence
import TextMigration.Proofs.Paths.Names
import TextMigration.Proofs.Text.Encoding
import TextMigration.Proofs.Finding.Listing
import TextMigration.Proofs.Finding.Discovery
import TextMigration.Proofs.Finding.Precedence
import TextMigration.Proofs.Saving.Walking
import TextMigration.Proofs.Saving.Beside
import TextMigration.Proofs.Saving.Atomic
import TextMigration.Proofs.Nearness.Edits
import TextMigration.Proofs.Nearness.Fractions
import TextMigration.Proofs.Nearness.Nearest
import TextMigration.Proofs.Rewriting.Expanding
import TextMigration.Proofs.Diffing.Shown
