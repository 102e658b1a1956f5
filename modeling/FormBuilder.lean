import FormBuilder.Job
import FormBuilder.Main
import FormBuilder.Proofs.Decimal.Whole
import FormBuilder.Proofs.Job.Coalescing
import FormBuilder.Proofs.Object
import FormBuilder.Proofs.Rule.Stored
import FormBuilder.Proofs.Schema.Slots
import FormBuilder.Proofs.Schema.Verdicts
import FormBuilder.Proofs.Service.Failures
import FormBuilder.Proofs.Service.Input
import FormBuilder.Proofs.Service.Outcomes
import FormBuilder.Proofs.Service.Reloaded
import FormBuilder.Proofs.Service.Submitted
import FormBuilder.Proofs.Session.Acts
import FormBuilder.Proofs.Store.FieldRow
import FormBuilder.Proofs.Store.Forms
import FormBuilder.Proofs.Store.KeptSettings
import FormBuilder.Proofs.Store.MergedSettings
import FormBuilder.Proofs.Store.Parsed
import FormBuilder.Proofs.Store.Replaced
import FormBuilder.Proofs.Store.Writes
import FormBuilder.Proofs.Text.Cleaned
import FormBuilder.Proofs.Text.Lower
import FormBuilder.Proofs.Text.Printable
import FormBuilder.Service.Call
import FormBuilder.Session.Run
import FormBuilder.Web.App
import FormBuilder.Proofs.Field.Parts
import FormBuilder.Proofs.Field.Changed
import FormBuilder.Proofs.Field.Ids
import FormBuilder.Proofs.Editor.Order
import FormBuilder.Proofs.Store.Keyed
import FormBuilder.Proofs.Service.Readable
import FormBuilder.Proofs.Store.Alike
import FormBuilder.Proofs.Service.Drafts
import FormBuilder.Proofs.Service.Isolated
import FormBuilder.Proofs.Wire
import FormBuilder.Proofs.Text.Slugs
import FormBuilder.Proofs.Service.Orders
import FormBuilder.Proofs.Service.Slugs
import FormBuilder.Proofs.Service.Published
import FormBuilder.Proofs.Service.Orphans
import FormBuilder.Proofs.Limiter.Granted
import FormBuilder.Proofs.Sanitize.Strings
import FormBuilder.Proofs.Editor.Forward
import FormBuilder.Proofs.Session.Barrier
import FormBuilder.Proofs.Schema.Accepted
import FormBuilder.Proofs.Editor.Collisions
import FormBuilder.Proofs.Editor.Shown
import FormBuilder.Proofs.Schema.Required
import FormBuilder.Proofs.Service.Keys
import FormBuilder.Proofs.Editor.Undone
import FormBuilder.Proofs.Text.Names
import FormBuilder.Proofs.Field.Turned
import FormBuilder.Proofs.Field.Merged
import FormBuilder.Proofs.Editor.Updates
import FormBuilder.Proofs.Editor.Settings
import FormBuilder.Proofs.Service.Loaded
import FormBuilder.Proofs.Service.Prepared
import FormBuilder.Proofs.Field.Folded
import FormBuilder.Proofs.Service.Copies
import FormBuilder.Proofs.Store.Takeovers
import FormBuilder.Proofs.Outline.Lines
import FormBuilder.Proofs.Outline.Written
import FormBuilder.Proofs.Editor.Revisions
import FormBuilder.Proofs.Limiter.Foretold
import FormBuilder.Proofs.Web.Pages
import FormBuilder.Proofs.Debounce.History
import FormBuilder.Proofs.Job.Punctual
import FormBuilder.Proofs.Session.Typed
import FormBuilder.Proofs.Decimal.Compared
import FormBuilder.Proofs.Visibility.Respelt
import FormBuilder.Proofs.Visibility.Numbers
import FormBuilder.Proofs.Session.Unsaved
