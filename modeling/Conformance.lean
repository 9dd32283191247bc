import Conformance.Assembly
import Conformance.Cache
import Conformance.CommandLine
import Conformance.Exchange
import Conformance.Extraction
import Conformance.Main
import Conformance.Proofs.Cache.Entries
import Conformance.Proofs.Cache.Provenance
import Conformance.Proofs.Cache.Runs
import Conformance.Proofs.Number.Clock
import Conformance.Proofs.Number.Rounding
import Conformance.Proofs.Resolution.Closure
import Conformance.Proofs.Resolution.Priority
import Conformance.Proofs.Service.Faults
import Conformance.Proofs.Service.History
import Conformance.Proofs.Service.Invalidation
import Conformance.Proofs.Service.Reading
import Conformance.Proofs.Service.Staleness
import Conformance.Proofs.Service.Transparency
import Conformance.Query
import Conformance.Report
import Conformance.Resolution.Rules
import Conformance.Scan
import Conformance.Service
import Conformance.Settings.Basic
import Conformance.Source.Outline
import Conformance.Proofs.Cache.Reads
import Conformance.Proofs.Resolution.Separation
import Conformance.Proofs.Exchange.Format
import Conformance.Proofs.Json.Numbers
import Conformance.Proofs.Json.Values
import Conformance.Proofs.Exchange.RoundTrip
import Conformance.Proofs.Json.Readable
import Conformance.Proofs.Directive.Grammar
import Conformance.Proofs.Directive.Leftmost
import Conformance.Proofs.Extraction.Damage
import Conformance.Proofs.Extraction.Walk
import Conformance.Proofs.Resolution.Monotone
import Conformance.Proofs.Cache.Forgetting
import Conformance.Proofs.Service.Fruitless
import Conformance.Proofs.Extraction.Records
import Conformance.Proofs.Files.Paths
import Conformance.Proofs.Files.Listing
import Conformance.Proofs.Files.Admission
import Conformance.Proofs.Service.Contents
import Conformance.Proofs.Service.Sources
import Conformance.Proofs.Resolution.Passes
import Conformance.Proofs.Query.Places
import Conformance.Proofs.Text.Sorting
import Conformance.Proofs.Resolution.Views
import Conformance.Proofs.Resolution.Distribution
import Conformance.Proofs.Query.Agreement
import Conformance.Proofs.Directive.Written
import Conformance.Proofs.Report.Consistency
import Conformance.Proofs.Files.Selection
import Conformance.Proofs.Resolution.Tables
import Conformance.Proofs.Extraction.TypeNames
import Conformance.Proofs.Text.Chunks
