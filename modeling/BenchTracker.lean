import BenchTracker.Alias
import BenchTracker.Build
import BenchTracker.Build.Json
import BenchTracker.Cache
import BenchTracker.Classification
import BenchTracker.CommandLine
import BenchTracker.CommandLine.Arguments
import BenchTracker.CommandLine.Logging
import BenchTracker.Decimal.Double
import BenchTracker.Decimal.Numeral
import BenchTracker.Decimal.Reading
import BenchTracker.Decimal.Shortest
import BenchTracker.Directory
import BenchTracker.Event
import BenchTracker.Failure
import BenchTracker.Ingest
import BenchTracker.Json.Number
import BenchTracker.Json.Printer
import BenchTracker.Json.Reader
import BenchTracker.Json.Shape
import BenchTracker.Json.Skipping
import BenchTracker.Json.Text
import BenchTracker.Kernel
import BenchTracker.Keyed
import BenchTracker.Log
import BenchTracker.Log.Device
import BenchTracker.Log.Measurements
import BenchTracker.Log.Scan
import BenchTracker.Main
import BenchTracker.Parameters
import BenchTracker.Pass
import BenchTracker.Provider
import BenchTracker.Regex.Basic
import BenchTracker.Regex.CharSet
import BenchTracker.Regex.Encoding
import BenchTracker.Regex.Look
import BenchTracker.Regex.Meaning
import BenchTracker.Regex.Parser
import BenchTracker.Regex.Pattern
import BenchTracker.Regex.Property
import BenchTracker.Regex.Size
import BenchTracker.Rollup
import BenchTracker.Rollup.Caption
import BenchTracker.Rollup.Chart
import BenchTracker.Rollup.Step
import BenchTracker.Roofline
import BenchTracker.Roofline.Json
import BenchTracker.Sample
import BenchTracker.Series
import BenchTracker.Store
import BenchTracker.Store.Json
import BenchTracker.Tables
import BenchTracker.Text.Blank
import BenchTracker.Text.Distinct
import BenchTracker.Text.Fields
import BenchTracker.Text.Quoted
import BenchTracker.Unicode.Category
import BenchTracker.Unicode.Folding
import BenchTracker.Unicode.Letter
import BenchTracker.Unicode.LowerCase
import BenchTracker.Unicode.Printable
import BenchTracker.Unicode.Property
import BenchTracker.Unicode.Ranges
import BenchTracker.Unicode.Script
import BenchTracker.Unicode.Word
import BenchTracker.Proofs.Keyed.Lookup
import BenchTracker.Proofs.Keyed.Traverse
import BenchTracker.Proofs.Series.Lookup
import BenchTracker.Proofs.Store.Lookup
import BenchTracker.Proofs.Store.Additions
import BenchTracker.Proofs.Ingest.Builds
import BenchTracker.Proofs.Ingest.Paging
import BenchTracker.Proofs.Ingest.Incremental
import BenchTracker.Proofs.Ingest.Watermark
import BenchTracker.Proofs.Decimal.Numeral
import BenchTracker.Proofs.Json.Number
import BenchTracker.Proofs.Json.Text
import BenchTracker.Proofs.Json.Shape
import BenchTracker.Proofs.Store.RoundTrip
import BenchTracker.Proofs.Directory.Files
import BenchTracker.Proofs.Cache.Saving
import BenchTracker.Proofs.Cache.Loading
import BenchTracker.Proofs.Ingest.Repeated
import BenchTracker.Proofs.Pass.Parts
import BenchTracker.Proofs.Pass.Repeated
import BenchTracker.Proofs.Cache.Settled
import BenchTracker.Proofs.Cache.Stopping
import BenchTracker.Proofs.Ingest.Interrupted
import BenchTracker.Proofs.Pass.Recovery
import BenchTracker.Proofs.Pass.Watermark
import BenchTracker.Proofs.Pass.Reloading
import BenchTracker.Proofs.Json.Mapped
import BenchTracker.Proofs.Store.Document
import BenchTracker.Proofs.Store.SampleMap
import BenchTracker.Proofs.Store.Size
import BenchTracker.Proofs.Store.History
import BenchTracker.Proofs.Decimal.Double
import BenchTracker.Proofs.Classification
import BenchTracker.Proofs.Ingest.Growth
import BenchTracker.Proofs.Ingest.Accounting
import BenchTracker.Proofs.Ingest.Isolation
import BenchTracker.Proofs.Ingest.LastPage
import BenchTracker.Proofs.Directory.Steps
import BenchTracker.Proofs.Rollup.Window
import BenchTracker.Proofs.Pass.Newest
import BenchTracker.Proofs.CommandLine
import BenchTracker.Proofs.Cache.Foci
import BenchTracker.Proofs.Pass.Interleaved
import BenchTracker.Proofs.Text.Distinct
import BenchTracker.Proofs.Rollup.Lockstep
import BenchTracker.Proofs.Rollup.Efficiency
import BenchTracker.Proofs.Rollup.Drawing
import BenchTracker.Proofs.Rollup.Stems
import BenchTracker.Proofs.Pass.ChartFiles
import BenchTracker.Proofs.Text.Blank
import BenchTracker.Proofs.Text.Fields
import BenchTracker.Proofs.Decimal.Digits
import BenchTracker.Proofs.Kernel
import BenchTracker.Proofs.Log.Scan
import BenchTracker.Proofs.Log.Lines
import BenchTracker.Proofs.Log.Invocations
import BenchTracker.Proofs.Log.Pairing
import BenchTracker.Proofs.Log.Printed
import BenchTracker.Proofs.Ingest.Reordered
import BenchTracker.Proofs.Kernel.Spelling
import BenchTracker.Proofs.Cache.Whole
import BenchTracker.Proofs.CommandLine.Focus
import BenchTracker.Proofs.Directory.Changes
import BenchTracker.Proofs.Cache.Untorn
import BenchTracker.Proofs.Rollup.Trailing
import BenchTracker.Proofs.Decimal.Magnitude
import BenchTracker.Proofs.Roofline.Band
import BenchTracker.Proofs.Roofline.Intensity
import BenchTracker.Proofs.Sample.Combined
import BenchTracker.Proofs.Regex.CharSet
import BenchTracker.Proofs.Unicode.Ranges
import BenchTracker.Proofs.Regex.Matching
import BenchTracker.Proofs.Regex.Literal
import BenchTracker.Proofs.Alias.Pattern
import BenchTracker.Proofs.Alias.Resolution
import BenchTracker.Proofs.Json.Items
import BenchTracker.Proofs.Json.Grammar
import BenchTracker.Proofs.Json.Skipping
import BenchTracker.Proofs.Json.Members
import BenchTracker.Proofs.Build.Page
