import CardCensus.Answer
import CardCensus.Card
import CardCensus.Category
import CardCensus.Color
import CardCensus.CommandLine
import CardCensus.Diagnostic
import CardCensus.Directory
import CardCensus.Export
import CardCensus.Export.Leniency
import CardCensus.Export.Printing
import CardCensus.Export.Release
import CardCensus.Import
import CardCensus.Json.Fault
import CardCensus.Json.Lexeme
import CardCensus.Json.Record
import CardCensus.Json.Skip
import CardCensus.Json.Structure
import CardCensus.Least
import CardCensus.Lookup
import CardCensus.Main
import CardCensus.ManaCost
import CardCensus.Message
import CardCensus.Negation
import CardCensus.Number.Decimal
import CardCensus.Number.Double
import CardCensus.Number.Integer
import CardCensus.Number.Notation
import CardCensus.Number.Total
import CardCensus.Picture
import CardCensus.Plan
import CardCensus.Plan.Compiled
import CardCensus.Proofs.Answer.Diagnostics
import CardCensus.Proofs.Answer.Isolation
import CardCensus.Proofs.Answer.Lines
import CardCensus.Proofs.Answer.Placeholders
import CardCensus.Proofs.Answer.Silence
import CardCensus.Proofs.Color.Channels
import CardCensus.Proofs.CommandLine.Flags
import CardCensus.Proofs.Export.Integers
import CardCensus.Proofs.Json.Literals
import CardCensus.Proofs.Lookup.Candidates
import CardCensus.Proofs.Lookup.Expression
import CardCensus.Proofs.Lookup.OwnName
import CardCensus.Proofs.Lookup.Quotation
import CardCensus.Proofs.Lookup.Selection
import CardCensus.Proofs.Lookup.Sets
import CardCensus.Proofs.ManaCost.Symbols
import CardCensus.Proofs.Message.Overlap
import CardCensus.Proofs.Message.Reading
import CardCensus.Proofs.Message.Refused
import CardCensus.Proofs.Message.Spans
import CardCensus.Proofs.Negation.Interleaving
import CardCensus.Proofs.Number.Nearness
import CardCensus.Proofs.Number.Order
import CardCensus.Proofs.Number.Parts
import CardCensus.Proofs.Number.Rounding
import CardCensus.Proofs.Number.Sums
import CardCensus.Proofs.Number.Total
import CardCensus.Proofs.Plan.Atoms
import CardCensus.Proofs.Plan.Congruence
import CardCensus.Proofs.Plan.Fields
import CardCensus.Proofs.Plan.Order
import CardCensus.Proofs.Plan.Scope
import CardCensus.Proofs.Query.Clauses
import CardCensus.Proofs.Query.Composition
import CardCensus.Proofs.Query.Folding
import CardCensus.Proofs.Query.RoundTrip
import CardCensus.Proofs.Query.Spacing
import CardCensus.Proofs.Run.Kept
import CardCensus.Proofs.Run.Series
import CardCensus.Proofs.Sql.Binding
import CardCensus.Proofs.Sql.Limits
import CardCensus.Proofs.Store.Addition
import CardCensus.Proofs.Store.Atomicity
import CardCensus.Proofs.Store.Case
import CardCensus.Proofs.Store.Categories
import CardCensus.Proofs.Store.Consistency
import CardCensus.Proofs.Store.Contents
import CardCensus.Proofs.Store.Counting
import CardCensus.Proofs.Store.Extrema
import CardCensus.Proofs.Store.Filtering
import CardCensus.Proofs.Store.Grouping
import CardCensus.Proofs.Store.Hidden
import CardCensus.Proofs.Store.History
import CardCensus.Proofs.Store.Joined
import CardCensus.Proofs.Store.Keys
import CardCensus.Proofs.Store.Meaning
import CardCensus.Proofs.Store.Needles
import CardCensus.Proofs.Store.Outcomes
import CardCensus.Proofs.Store.Printings
import CardCensus.Proofs.Store.Rearranged
import CardCensus.Proofs.Store.Replacement
import CardCensus.Proofs.Store.Snapshot
import CardCensus.Proofs.Store.Spacing
import CardCensus.Proofs.Store.Totals
import CardCensus.Proofs.Store.Unnumbered
import CardCensus.Proofs.Text.Bytes
import CardCensus.Proofs.Text.Case
import CardCensus.Proofs.Text.Comparison
import CardCensus.Proofs.Text.Folding
import CardCensus.Proofs.Text.Lines
import CardCensus.Proofs.Text.Occurrence
import CardCensus.Proofs.Text.Pattern
import CardCensus.Proofs.Text.Spacing
import CardCensus.Proofs.Text.Tokens
import CardCensus.Proofs.Text.Upper
import CardCensus.Query
import CardCensus.Query.Clause
import CardCensus.Query.Written
import CardCensus.Run
import CardCensus.Settings
import CardCensus.Settings.File
import CardCensus.Settings.Scalar
import CardCensus.Sql.Grouped
import CardCensus.Sql.Limits
import CardCensus.Sql.Schema
import CardCensus.Sql.Statement
import CardCensus.Store.Aggregate
import CardCensus.Store.Listing
import CardCensus.Store.Operand
import CardCensus.Store.Scan
import CardCensus.Store.Selection
import CardCensus.Store.Snapshot
import CardCensus.Store.Table
import CardCensus.Store.Tables
import CardCensus.Store.Transaction
import CardCensus.Store.Write
import CardCensus.StoreError
import CardCensus.Text.Blank
import CardCensus.Text.Fold
import CardCensus.Text.Pattern
import CardCensus.Text.Quoted
import CardCensus.Text.Split
import CardCensus.Text.TokenTable
import CardCensus.Text.Tokens
import CardCensus.Text.Unprintable
import CardCensus.Text.Upper
import CardCensus.Text.UpperTable
import CardCensus.Text.Words
import CardCensus.Value
