import SheetSchema.A1.Qualified
import SheetSchema.A1.Range
import SheetSchema.Code.Artifacts
import SheetSchema.Generation
import SheetSchema.Grid.Change
import SheetSchema.Grid.Metadata
import SheetSchema.Ledger
import SheetSchema.Log.Setup
import SheetSchema.Name.Camel
import SheetSchema.Schema.Edit
import SheetSchema.Settings.Basic
import SheetSchema.Sync.NamedRange
import SheetSchema.Proofs.A1.Column
import SheetSchema.Proofs.A1.Cell
import SheetSchema.Proofs.Grid.Range
import SheetSchema.Proofs.Text.Cut
import SheetSchema.Proofs.Text.Numeral
import SheetSchema.Table.Basic
import SheetSchema.Proofs.A1.Qualified
import SheetSchema.Proofs.A1.Range
import SheetSchema.Proofs.A1.Block
import SheetSchema.Proofs.Name.Camel
import SheetSchema.Proofs.Schema.Field
import SheetSchema.Proofs.Schema.Range
import SheetSchema.Proofs.Schema.Order
import SheetSchema.Proofs.Schema.Layout
import SheetSchema.Proofs.Schema.Slots
import SheetSchema.Proofs.Code.Rearrangement
import SheetSchema.Proofs.Table.Placement
import SheetSchema.Proofs.Schema.Wire
import SheetSchema.Proofs.Json.Strings
import SheetSchema.Proofs.Json.Numerals
import SheetSchema.Proofs.Json.Reading
import SheetSchema.Proofs.Schema.Document
import SheetSchema.Proofs.Header.Fields
import SheetSchema.Proofs.Service.Session
import SheetSchema.Proofs.Service.Sheets
import SheetSchema.Proofs.Service.Translation
import SheetSchema.Proofs.Header.Translation
import SheetSchema.Proofs.Header.Inference
import SheetSchema.Proofs.Generation
import SheetSchema.Proofs.Header.Reading
import SheetSchema.Proofs.Header.Tiers
import SheetSchema.Proofs.Header.Conversation
import SheetSchema.Proofs.Header.Paths
import SheetSchema.Proofs.Sync.Book
import SheetSchema.Proofs.Sync.Replace
import SheetSchema.Proofs.Sync.Shelf
import SheetSchema.Proofs.Sync.Runs
import SheetSchema.Proofs.Sync.Schema
import SheetSchema.Proofs.Files.Work
import SheetSchema.Proofs.Sync.Course
import SheetSchema.Proofs.Code.Declaration
import SheetSchema.Proofs.Table.RoundTrip
import SheetSchema.Proofs.Code.Emitted
import SheetSchema.Proofs.Code.Interface
import SheetSchema.Proofs.Schema.Misreading
import SheetSchema.Proofs.A1.Numbering
import SheetSchema.Proofs.A1.Denotation
import SheetSchema.Proofs.Header.Names
import SheetSchema.Proofs.Name.Spelling
import SheetSchema.Proofs.A1.StartCell
import SheetSchema.Proofs.Schema.Definition
import SheetSchema.Proofs.A1.Presentation
import SheetSchema.Proofs.Text.Lines
import SheetSchema.Proofs.Code.Search
import SheetSchema.Proofs.Code.Comment
import SheetSchema.Proofs.Code.Constant
import SheetSchema.Proofs.Code.Neighbour
import SheetSchema.Proofs.Code.Repetition
import SheetSchema.Proofs.Code.Literal
import SheetSchema.Proofs.Code.Rendering
import SheetSchema.Proofs.Table.Width
import SheetSchema.Proofs.Code.Scope
import SheetSchema.Proofs.Code.Selection
import SheetSchema.Proofs.Code.Body
import SheetSchema.Proofs.Code.Repository
import SheetSchema.Proofs.Code.Clash
import SheetSchema.Proofs.Grid.Change
import SheetSchema.Proofs.Table.Missing
import SheetSchema.Proofs.Header.Untranslated
import SheetSchema.Proofs.A1.Letters
import SheetSchema.Proofs.Text.Case
import SheetSchema.Proofs.Code.Casing
