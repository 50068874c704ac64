import Mintmark.Http.Api
import Mintmark.Settings.Load
import Mintmark.Store.Site
import Mintmark.Proofs.Memory.Cells
import Mintmark.Proofs.Memory.Clients
import Mintmark.Proofs.Memory.Interleaving
import Mintmark.Proofs.Layout.Committable
import Mintmark.Proofs.Mint.Pieces
import Mintmark.Proofs.Mint.Allocation
import Mintmark.Proofs.Calendar.Date
import Mintmark.Proofs.Mint.Lengths
import Mintmark.Proofs.Mint.Runs
import Mintmark.Proofs.Mint.Distinct
import Mintmark.Proofs.Json.Numerals
import Mintmark.Proofs.Json.Printed
import Mintmark.Proofs.Store.Documents
import Mintmark.Proofs.Store.Drawers
import Mintmark.Proofs.Store.FileNames
import Mintmark.Proofs.Store.Crashes
import Mintmark.Proofs.Layout.Places
import Mintmark.Proofs.Store.Isolation
import Mintmark.Proofs.Store.Ledger
import Mintmark.Proofs.Store.Filing
import Mintmark.Proofs.Store.Alike
import Mintmark.Proofs.Mint.Stock
import Mintmark.Proofs.Format.Inquiry
import Mintmark.Proofs.Format.Sharing
import Mintmark.Proofs.Format.Specifiers
import Mintmark.Proofs.Format.Numerals
import Mintmark.Proofs.Format.Templates
import Mintmark.Proofs.Layout.Inquiries
import Mintmark.Proofs.Layout.Verdicts
import Mintmark.Proofs.Layout.UnknownKinds
import Mintmark.Proofs.Mint.Transparency
import Mintmark.Proofs.Mint.Acceptance
import Mintmark.Proofs.Store.Reached
import Mintmark.Proofs.Mint.Foresight
import Mintmark.Proofs.Json.Decoded
import Mintmark.Proofs.Layout.Built
import Mintmark.Proofs.Layout.Readback
import Mintmark.Proofs.Http.Resaving
import Mintmark.Proofs.Layout.Violations
import Mintmark.Proofs.Memory.Failures
import Mintmark.Proofs.Store.Leftovers
import Mintmark.Proofs.Http.Routing
import Mintmark.Proofs.Mint.Effects
import Mintmark.Proofs.Http.Effects
import Mintmark.Proofs.Layout.Edits
import Mintmark.Proofs.Mint.Rearranged
import Mintmark.Proofs.Calendar.Order
import Mintmark.Proofs.Format.Chronology
import Mintmark.Proofs.Mint.Ranges
import Mintmark.Proofs.Counters
import Mintmark.Proofs.Mint.Unread
import Mintmark.Proofs.Store.Damage
import Mintmark.Proofs.Http.Table
import Mintmark.Proofs.Http.MetricsPath
import Mintmark.Proofs.Mint.Bookkeeping
import Mintmark.Proofs.Text.Integers
import Mintmark.Proofs.Settings.Layers
import Mintmark.Proofs.Number.Characters
import Mintmark.Proofs.Settings.Texts
import Mintmark.Proofs.Settings.Checked
import Mintmark.Proofs.Settings.Environment
