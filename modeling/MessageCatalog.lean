import MessageCatalog.Data.Json.Reading
import MessageCatalog.Files.Tree
import MessageCatalog.Main
import MessageCatalog.Proofs.Markup.Attributes
import MessageCatalog.Proofs.Markup.Unescaping
import MessageCatalog.Proofs.Numeral
import MessageCatalog.Proofs.Utf8
import MessageCatalog.Proofs.Utf16
import MessageCatalog.Proofs.Catalog.Reading
import MessageCatalog.Proofs.Catalog.Elements
import MessageCatalog.Proofs.Catalog.RoundTrip
import MessageCatalog.Proofs.Merge.Retirement
import MessageCatalog.Proofs.Merge.Layout
import MessageCatalog.Proofs.Merge.Idempotence
import MessageCatalog.Proofs.Merge.History
import MessageCatalog.Proofs.Merge.Accounting
import MessageCatalog.Proofs.Merge.Validity
import MessageCatalog.Proofs.Merge.Promotion
import MessageCatalog.Proofs.Merge.Unchanged
import MessageCatalog.Proofs.Merge.Reloading
import MessageCatalog.Proofs.Lookup.Scan
import MessageCatalog.Proofs.Lookup.Merging
import MessageCatalog.Proofs.Lookup.Markers
import MessageCatalog.Proofs.Command.Formatting
import MessageCatalog.Proofs.Catalog.Truncation
import MessageCatalog.Proofs.Catalog.Encodings
import MessageCatalog.Proofs.Catalog.Sniffing
import MessageCatalog.Proofs.Check.Findings
import MessageCatalog.Proofs.Check.Places
import MessageCatalog.Proofs.Compare.Changes
import MessageCatalog.Proofs.Lookup.PluralForms
import MessageCatalog.Proofs.Catalog.Export
import MessageCatalog.Proofs.Sweep.Report
import MessageCatalog.Proofs.Catalog.Skipping
import MessageCatalog.Proofs.Catalog.Nesting
import MessageCatalog.Proofs.Catalog.Spellings
import MessageCatalog.Proofs.Lookup.Shown
import MessageCatalog.Proofs.Merge.Reuse
import MessageCatalog.Proofs.Merge.Choices
import MessageCatalog.Proofs.Lookup.Segments
import MessageCatalog.Proofs.Catalog.Variants
import MessageCatalog.Proofs.Catalog.Lines
import MessageCatalog.Proofs.Progress.Tallies
import MessageCatalog.Proofs.Catalog.Controls
import MessageCatalog.Proofs.Catalog.Building
import MessageCatalog.Proofs.Sweep.Agreement
import MessageCatalog.Proofs.Check.Accelerators
import MessageCatalog.Proofs.Lookup.Counts
import MessageCatalog.Proofs.Report.OneLineEach
