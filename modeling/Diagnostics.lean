import Diagnostics.Block.Basic
import Diagnostics.Block.Code
import Diagnostics.Block.Same
import Diagnostics.Builder
import Diagnostics.Command.Arguments
import Diagnostics.Command.Counts
import Diagnostics.Command.Fault
import Diagnostics.Command.Request
import Diagnostics.Command.Run
import Diagnostics.Comparison
import Diagnostics.Datum
import Diagnostics.Decimal.Binary
import Diagnostics.Decimal.Shortest
import Diagnostics.Excerpt.Basic
import Diagnostics.Excerpt.Draw
import Diagnostics.Excerpt.Drawing
import Diagnostics.Excerpt.Lanes
import Diagnostics.Excerpt.Row
import Diagnostics.Failure
import Diagnostics.Files.Path
import Diagnostics.Files.Tree
import Diagnostics.Glyphs
import Diagnostics.Highlight
import Diagnostics.Layout.Heading
import Diagnostics.Layout.Stack
import Diagnostics.Layout.Tree
import Diagnostics.Lookup
import Diagnostics.Main
import Diagnostics.Position
import Diagnostics.Proofs.Connectors
import Diagnostics.Proofs.Construction
import Diagnostics.Proofs.Coordinates
import Diagnostics.Proofs.DisplayedLines
import Diagnostics.Proofs.DrawnConnectors
import Diagnostics.Proofs.DrawnLines
import Diagnostics.Proofs.LaneStates
import Diagnostics.Proofs.Lines
import Diagnostics.Proofs.Markers
import Diagnostics.Proofs.Measures
import Diagnostics.Proofs.Picture
import Diagnostics.Proofs.Prefixes
import Diagnostics.Proofs.PrintedRows
import Diagnostics.Proofs.Ranges
import Diagnostics.Proofs.Results
import Diagnostics.Proofs.TextLines
import Diagnostics.Proofs.Totality
import Diagnostics.Settings
import Diagnostics.Severity
import Diagnostics.Source
import Diagnostics.Span
import Diagnostics.Styled
import Diagnostics.Text.Blank
import Diagnostics.Text.Digit
import Diagnostics.Text.Integer
import Diagnostics.Text.Lines
import Diagnostics.Text.Printable
import Diagnostics.Text.Quoted
import Diagnostics.Text.Similarity
import Diagnostics.Text.Utf8
import Diagnostics.Toml.Document
import Diagnostics.Toml.Grammar
import Diagnostics.Toml.Lexeme
import Diagnostics.Toml.Refusal
import Diagnostics.Toml.Value
import Diagnostics.Proofs.RowCounts
import Diagnostics.Proofs.Fragments
import Diagnostics.Proofs.Characters
import Diagnostics.Proofs.ExcerptCharacters
import Diagnostics.Proofs.LayoutCharacters
import Diagnostics.Proofs.Printing
import Diagnostics.Proofs.Decoding
import Diagnostics.Proofs.Paths
import Diagnostics.Proofs.Requests
import Diagnostics.Proofs.CommandRuns
import Diagnostics.Proofs.Emission
import Diagnostics.Proofs.PhysicalLines
import Diagnostics.Proofs.AlikeDrawings
import Diagnostics.Proofs.Charsets
import Diagnostics.Proofs.Building
import Diagnostics.Proofs.Counterparts
import Diagnostics.Proofs.Parts
import Diagnostics.Proofs.PromisedLines
import Diagnostics.Proofs.Replacement
import Diagnostics.Proofs.RunCourses
import Diagnostics.Proofs.RunEffects
import Diagnostics.Proofs.Misfits
import Diagnostics.Proofs.DrawingOrder
import Diagnostics.Proofs.Redrawing
import Diagnostics.Proofs.Gutters
import Diagnostics.Proofs.MessageColumns
import Diagnostics.Proofs.LineIndex
import Diagnostics.Proofs.IndexSearch
import Diagnostics.Proofs.Nesting
import Diagnostics.Proofs.FrameNumbers
import Diagnostics.Proofs.Wrapping
import Diagnostics.Proofs.Continuations
import Diagnostics.Proofs.VerbatimLines
import Diagnostics.Proofs.Numerals
import Diagnostics.Proofs.SpanSyntax
import Diagnostics.Proofs.Lookups
import Diagnostics.Proofs.NearestSettings
import Diagnostics.Proofs.EffectiveSettings
