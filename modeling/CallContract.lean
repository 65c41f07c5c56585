import CallContract.Calendar.Date
import CallContract.Calendar.FreeForm.Parts
import CallContract.Calendar.FreeForm.Reading
import CallContract.Calendar.FreeForm.Token
import CallContract.Calendar.Iso
import CallContract.Calendar.Patterns
import CallContract.Calendar.TimeOfDay
import CallContract.Calendar.Timestamp
import CallContract.Calendar.Zone
import CallContract.Calendar.ZoneNames
import CallContract.Calendar.ZoneRules
import CallContract.Coercion
import CallContract.Context
import CallContract.Contract
import CallContract.Conversion.ByType
import CallContract.Conversion.Collection
import CallContract.Conversion.Fault
import CallContract.Conversion.Moment
import CallContract.Conversion.Scalar
import CallContract.Definition
import CallContract.Entries
import CallContract.Issue
import CallContract.Journal
import CallContract.JsonText
import CallContract.Locale
import CallContract.Markup.Finding
import CallContract.Markup.Tag
import CallContract.Markup.Token
import CallContract.Mode
import CallContract.Number.Decimal
import CallContract.Number.Double
import CallContract.Number.Localized
import CallContract.Number.Rounding
import CallContract.Number.Whole
import CallContract.Param
import CallContract.Patch
import CallContract.Proofs.Calendar.DateText
import CallContract.Proofs.Calendar.Fields
import CallContract.Proofs.Calendar.RoundTrip
import CallContract.Proofs.Coercion.Agreement
import CallContract.Proofs.Coercion.Defaults
import CallContract.Proofs.Coercion.Idempotence
import CallContract.Proofs.Coercion.InPlace
import CallContract.Proofs.Coercion.Renaming
import CallContract.Proofs.Coercion.Selection
import CallContract.Proofs.Coercion.SystemMode
import CallContract.Proofs.Coercion.Validity
import CallContract.Proofs.Conversion.ListText
import CallContract.Proofs.Copying
import CallContract.Proofs.Entries
import CallContract.Proofs.Freshness
import CallContract.Proofs.LocaleText
import CallContract.Proofs.Markup.Plain
import CallContract.Proofs.Markup.Readable
import CallContract.Proofs.Markup.Visible
import CallContract.Proofs.Naming
import CallContract.Proofs.Number.Digits
import CallContract.Proofs.Number.Integral
import CallContract.Proofs.Number.RoundTrip
import CallContract.Proofs.Number.Separators
import CallContract.Proofs.Resolution.Actions
import CallContract.Proofs.Resolution.Blend
import CallContract.Proofs.Resolution.Content
import CallContract.Proofs.Resolution.Dependency
import CallContract.Proofs.Resolution.Disguise
import CallContract.Proofs.Resolution.Edits
import CallContract.Proofs.Resolution.Evolution
import CallContract.Proofs.Resolution.Grouping
import CallContract.Proofs.Resolution.History
import CallContract.Proofs.Resolution.Keeping
import CallContract.Proofs.Resolution.Lineage
import CallContract.Proofs.Resolution.Merging
import CallContract.Proofs.Resolution.Occurrences
import CallContract.Proofs.Resolution.Outcome
import CallContract.Proofs.Resolution.Patching
import CallContract.Proofs.Resolution.Recursion
import CallContract.Proofs.Resolution.Refusal
import CallContract.Proofs.Resolution.Remerging
import CallContract.Proofs.Resolution.Run
import CallContract.Proofs.Resolution.Sharing
import CallContract.Proofs.Resolution.Stack
import CallContract.Proofs.Resolution.Steps
import CallContract.Proofs.Resolution.Touches
import CallContract.Proofs.Resolution.Warnings
import CallContract.Proofs.Stateful
import CallContract.Proofs.Storage
import CallContract.Proofs.UnlistedModes
import CallContract.Proofs.Validation.Answering
import CallContract.Proofs.Validation.Missing
import CallContract.Proofs.Versions.Chain
import CallContract.Proofs.Versions.Redefinition
import CallContract.Proofs.Versions.Registration
import CallContract.Proofs.WellFormed
import CallContract.Registry
import CallContract.Resolution.Inheritance
import CallContract.Resolution.Machine
import CallContract.Resolution.Recursive
import CallContract.Room
import CallContract.SemanticType
import CallContract.Session.Basic
import CallContract.Session.Contexts
import CallContract.Session.Contracts
import CallContract.Session.Params
import CallContract.Settings
import CallContract.Store
import CallContract.Text.Blank
import CallContract.Text.Casing
import CallContract.Text.Digit
import CallContract.Text.Letter
import CallContract.Text.Printable
import CallContract.Text.Quoted
import CallContract.Text.Runs
import CallContract.Text.Split
import CallContract.Validation
import CallContract.Validator
import CallContract.Value
import CallContract.Value.Equal
import CallContract.Value.Written
import CallContract.Views
import CallContract.World
