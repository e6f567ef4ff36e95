import LabelPress.Address.Basic
import LabelPress.Address.Host
import LabelPress.Address.Name
import LabelPress.Address.NameTable
import LabelPress.Address.Percent
import LabelPress.Address.Punycode
import LabelPress.Binary64.Basic
import LabelPress.Binary64.Decimal
import LabelPress.Calendar.Basic
import LabelPress.Calendar.Iso
import LabelPress.Calendar.Pattern
import LabelPress.Canvas.Design
import LabelPress.Canvas.Object
import LabelPress.Command.Basic
import LabelPress.Command.FieldData
import LabelPress.Command.Frame
import LabelPress.CommandLine.Commands
import LabelPress.CommandLine.Inputs
import LabelPress.CommandLine.Options
import LabelPress.CommandLine.Program
import LabelPress.CommandLine.Run
import LabelPress.CommandLine.Usage
import LabelPress.Document.Field
import LabelPress.Document.Read
import LabelPress.Document.Text
import LabelPress.Document.Write
import LabelPress.Element.Basic
import LabelPress.Element.Kind
import LabelPress.Element.Symbology
import LabelPress.Fault
import LabelPress.Field.Binding
import LabelPress.Field.Catalog
import LabelPress.Field.Spec
import LabelPress.Files.Design
import LabelPress.Files.Tree
import LabelPress.Geometry
import LabelPress.Handmade.Binding
import LabelPress.Handmade.Commands
import LabelPress.Handmade.Draft
import LabelPress.Handmade.Item
import LabelPress.Handmade.Operand
import LabelPress.Handmade.Press
import LabelPress.Handmade.Preview
import LabelPress.Handmade.Session
import LabelPress.Handmade.Spec
import LabelPress.Host
import LabelPress.Journal
import LabelPress.Json.Reader
import LabelPress.Json.Writer
import LabelPress.Label.Commands
import LabelPress.Label.Target
import LabelPress.Main
import LabelPress.Number
import LabelPress.Numeral.Digits
import LabelPress.Numeral.Integer
import LabelPress.Numeral.Real
import LabelPress.Orientation
import LabelPress.Preview.Request
import LabelPress.Preview.Status
import LabelPress.Proofs.Address.Path
import LabelPress.Proofs.Binary64.Accuracy
import LabelPress.Proofs.Binary64.Order
import LabelPress.Proofs.Binary64.Overflow
import LabelPress.Proofs.Binary64.Remainder
import LabelPress.Proofs.Binary64.Rounding
import LabelPress.Proofs.Binary64.Shortest
import LabelPress.Proofs.Calendar.Digits
import LabelPress.Proofs.Calendar.Iso
import LabelPress.Proofs.Calendar.Pattern
import LabelPress.Proofs.Canvas.Design
import LabelPress.Proofs.Canvas.Native
import LabelPress.Proofs.Canvas.Object
import LabelPress.Proofs.Command.FieldData
import LabelPress.Proofs.Command.Operands
import LabelPress.Proofs.Command.Skeleton
import LabelPress.Proofs.CommandLine.Compile
import LabelPress.Proofs.CommandLine.Files
import LabelPress.Proofs.CommandLine.Inputs
import LabelPress.Proofs.CommandLine.Launch
import LabelPress.Proofs.CommandLine.Output
import LabelPress.Proofs.CommandLine.Preview
import LabelPress.Proofs.CommandLine.Program
import LabelPress.Proofs.CommandLine.Report
import LabelPress.Proofs.Document.Accounting
import LabelPress.Proofs.Document.Faults
import LabelPress.Proofs.Document.Field
import LabelPress.Proofs.Document.Grammar
import LabelPress.Proofs.Document.Ingested
import LabelPress.Proofs.Document.JsonText
import LabelPress.Proofs.Document.Outcome
import LabelPress.Proofs.Document.Printable
import LabelPress.Proofs.Document.Read
import LabelPress.Proofs.Document.RoundTrip
import LabelPress.Proofs.Document.UnknownKinds
import LabelPress.Proofs.Dots
import LabelPress.Proofs.Field.Binding
import LabelPress.Proofs.Field.Catalog
import LabelPress.Proofs.Field.Temporal
import LabelPress.Proofs.Files.Design
import LabelPress.Proofs.Files.Tree
import LabelPress.Proofs.Geometry
import LabelPress.Proofs.Journal
import LabelPress.Proofs.Json.Digits
import LabelPress.Proofs.Json.Numbers
import LabelPress.Proofs.Json.RoundTrip
import LabelPress.Proofs.Json.Strings
import LabelPress.Proofs.Json.Text
import LabelPress.Proofs.Label.Batch
import LabelPress.Proofs.Label.BoundFields
import LabelPress.Proofs.Label.Commands
import LabelPress.Proofs.Label.FontHeight
import LabelPress.Proofs.Label.Formats
import LabelPress.Proofs.Label.Guides
import LabelPress.Proofs.Label.Lines
import LabelPress.Proofs.Label.Modest
import LabelPress.Proofs.Label.Moves
import LabelPress.Proofs.Label.Operands
import LabelPress.Proofs.Label.Printable
import LabelPress.Proofs.Label.References
import LabelPress.Proofs.Label.Skeleton
import LabelPress.Proofs.Label.Skips
import LabelPress.Proofs.Label.Strokes
import LabelPress.Proofs.Label.SymbolData
import LabelPress.Proofs.Label.Target
import LabelPress.Proofs.Lengths
import LabelPress.Proofs.NearestDot
import LabelPress.Proofs.Number
import LabelPress.Proofs.Numeral.Decimal
import LabelPress.Proofs.Orientation
import LabelPress.Proofs.Preview.Inches
import LabelPress.Proofs.Preview.Request
import LabelPress.Proofs.Settings.Load
import LabelPress.Proofs.Settings.Usable
import LabelPress.Proofs.Terminal.Cues
import LabelPress.Proofs.Terminal.Markup
import LabelPress.Proofs.Terminal.Wrapping
import LabelPress.Proofs.Text.Blank
import LabelPress.Proofs.Text.Encoding
import LabelPress.Proofs.Text.Join
import LabelPress.Proofs.Value.Printed
import LabelPress.Proofs.Value.Text
import LabelPress.Proofs.Yaml.Nodes
import LabelPress.Proofs.Yaml.Tokens
import LabelPress.Settings.Basic
import LabelPress.Settings.LabelSize
import LabelPress.Terminal.Action
import LabelPress.Terminal.ActionFault
import LabelPress.Terminal.ActionToken
import LabelPress.Terminal.ActionValue
import LabelPress.Terminal.Color
import LabelPress.Terminal.Emoji
import LabelPress.Terminal.EmojiTable
import LabelPress.Terminal.Log
import LabelPress.Terminal.Markup
import LabelPress.Terminal.NameTable
import LabelPress.Terminal.Style
import LabelPress.Terminal.Table
import LabelPress.Terminal.Wrapping
import LabelPress.Text.Base64
import LabelPress.Text.Basic
import LabelPress.Text.Blank
import LabelPress.Text.Case
import LabelPress.Text.CaseTable
import LabelPress.Text.CellWidth
import LabelPress.Text.Cells
import LabelPress.Text.Digit
import LabelPress.Text.Encoding
import LabelPress.Text.Likeness
import LabelPress.Text.Lines
import LabelPress.Text.Printable
import LabelPress.Text.Quoted
import LabelPress.Text.Ranges
import LabelPress.Text.Utf8
import LabelPress.Value.Basic
import LabelPress.Value.Display
import LabelPress.Value.Members
import LabelPress.Yaml.BlockScalar
import LabelPress.Yaml.Cell
import LabelPress.Yaml.Cursor
import LabelPress.Yaml.Merge
import LabelPress.Yaml.Node
import LabelPress.Yaml.PlainScalar
import LabelPress.Yaml.Property
import LabelPress.Yaml.QuotedScalar
import LabelPress.Yaml.Scalar
import LabelPress.Yaml.ScalarText
import LabelPress.Yaml.Scan
import LabelPress.Yaml.Tag
import LabelPress.Yaml.Timestamp
import LabelPress.Yaml.Token
import LabelPress.Yaml.Value
import LabelPress.Yaml.Writer
