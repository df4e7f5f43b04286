import CaskAudit.Fetch.Offline
import CaskAudit.Files.Tree
import CaskAudit.Json.Reader
import CaskAudit.Json.Settings
import CaskAudit.Main
import CaskAudit.Proofs.Lexeme.Scans
import CaskAudit.Proofs.Guard.Grammar
import CaskAudit.Proofs.Guard.RoundTrip
import CaskAudit.Proofs.Lexeme.Boundaries
import CaskAudit.Proofs.Guard.Reread
import CaskAudit.Proofs.Guard.Evaluation
import CaskAudit.Proofs.Guard.Unknown
import CaskAudit.Proofs.Source.Outline
import CaskAudit.Proofs.Source.Values
import CaskAudit.Proofs.Source.Rows
import CaskAudit.Proofs.Source.Statements
import CaskAudit.Proofs.Source.Definitions
import CaskAudit.Proofs.Source.Tables
import CaskAudit.Proofs.Source.Defaults
import CaskAudit.Proofs.Manifest.Construction
import CaskAudit.Proofs.Manifest.Description
import CaskAudit.Proofs.Manifest.Selection
import CaskAudit.Proofs.Manifest.Order
import CaskAudit.Proofs.Manifest.Isolation
import CaskAudit.Proofs.Manifest.Faults
import CaskAudit.Proofs.Fetch.Conditions
import CaskAudit.Proofs.Fetch.Retrying
import CaskAudit.Proofs.Feed.Listing
import CaskAudit.Proofs.Verification.Verdict
import CaskAudit.Proofs.Text.Utf8
import CaskAudit.Proofs.Checkpoint.Dates
import CaskAudit.Proofs.Checkpoint.Seams
import CaskAudit.Proofs.Digest.Hexadecimal
import CaskAudit.Proofs.Catalog.Order
import CaskAudit.Proofs.Verification.Requests
import CaskAudit.Proofs.Batch.Independence
import CaskAudit.Proofs.Fetch.Worlds
import CaskAudit.Proofs.Batch.Progress
import CaskAudit.Proofs.Source.Layout
import CaskAudit.Proofs.Source.Steps
import CaskAudit.Proofs.Source.Skipping
import CaskAudit.Proofs.Source.Conditionals
import CaskAudit.Proofs.Template.Expansion
import CaskAudit.Proofs.Catalog.Loading
import CaskAudit.Proofs.Source.Shape
import CaskAudit.Proofs.Lexeme.Printing
import CaskAudit.Proofs.Template.Composition
import CaskAudit.Proofs.Version.Numbers
import CaskAudit.Proofs.Version.Chains
import CaskAudit.Proofs.Version.Rereading
import CaskAudit.Proofs.Release.Lookup
import CaskAudit.Proofs.Lexeme.Positions
import CaskAudit.Proofs.Source.Refusals
import CaskAudit.Proofs.Source.Reports
import CaskAudit.Proofs.Feed.Newest
import CaskAudit.Proofs.Feed.Adverts
import CaskAudit.Proofs.Feed.Grouping
import CaskAudit.Proofs.Fetch.Doubling
import CaskAudit.Proofs.Report.Entries
import CaskAudit.Proofs.Report.Files
import CaskAudit.Proofs.Batch.Provenance
import CaskAudit.Proofs.Report.Directory
import CaskAudit.Proofs.Settings.Flags
