import WidgetContracts.Collection
import WidgetContracts.Configuration
import WidgetContracts.Contract
import WidgetContracts.Decimal.Binary
import WidgetContracts.Decimal.Notation
import WidgetContracts.Decimal.Reader
import WidgetContracts.Decimal.Shortest
import WidgetContracts.Document.Basic
import WidgetContracts.Document.Calendar
import WidgetContracts.Document.Json
import WidgetContracts.Document.SetOrder
import WidgetContracts.Document.Spelling
import WidgetContracts.Entry.Basic
import WidgetContracts.Entry.Check
import WidgetContracts.Entry.Reading
import WidgetContracts.Entry.Salvage
import WidgetContracts.FieldType
import WidgetContracts.FileTree.Basic
import WidgetContracts.FileTree.Path
import WidgetContracts.Generate
import WidgetContracts.Log.Line
import WidgetContracts.Log.Record
import WidgetContracts.Markup.Cursor
import WidgetContracts.Markup.Document
import WidgetContracts.Markup.Source
import WidgetContracts.Markup.Kind
import WidgetContracts.Markup.Merge
import WidgetContracts.Markup.Node
import WidgetContracts.Markup.Scalar
import WidgetContracts.Markup.Token.Basic
import WidgetContracts.Markup.Token.Scalars
import WidgetContracts.Markup.Token.Scan
import WidgetContracts.Markup.Token.Words
import WidgetContracts.Naming
import WidgetContracts.Output
import WidgetContracts.Proofs.Contract.Decode
import WidgetContracts.Proofs.Contract.Depiction
import WidgetContracts.Proofs.Entry.Accepted
import WidgetContracts.Proofs.Generate.Batch
import WidgetContracts.Proofs.Naming.Separators
import WidgetContracts.Proofs.Resolve.Chains
import WidgetContracts.Proofs.Resolve.Field
import WidgetContracts.Proofs.Resolve.Nodes
import WidgetContracts.Proofs.Shape.Nesting
import WidgetContracts.Proofs.Store.Answers
import WidgetContracts.Proofs.Tag.Decode
import WidgetContracts.Proofs.Tag.Depiction
import WidgetContracts.Proofs.Tag.Lines
import WidgetContracts.Reading
import WidgetContracts.Remote.Client
import WidgetContracts.Remote.Domain
import WidgetContracts.Remote.Domain.Tables
import WidgetContracts.Remote.Escape
import WidgetContracts.Remote.Host
import WidgetContracts.Remote.Url
import WidgetContracts.Resolve
import WidgetContracts.Settings.Basic
import WidgetContracts.Settings.EnvFile
import WidgetContracts.Shape
import WidgetContracts.Store
import WidgetContracts.Tag.Basic
import WidgetContracts.Tag.Fields
import WidgetContracts.Text.Base64
import WidgetContracts.Text.Basic
import WidgetContracts.Text.Casing
import WidgetContracts.Text.Casing.Tables
import WidgetContracts.Text.Composition
import WidgetContracts.Text.Composition.Tables
import WidgetContracts.Text.Encoding
import WidgetContracts.Text.Printable
import WidgetContracts.Text.Punycode
import WidgetContracts.Text.Quoted
import WidgetContracts.Text.Utf8
import WidgetContracts.Proofs.Resolve.Traces
import WidgetContracts.Proofs.Shape.Census
import WidgetContracts.Proofs.Resolve.Requests
import WidgetContracts.Proofs.Generate.Alike
import WidgetContracts.Publish
import WidgetContracts.Proofs.FileTree.Writing
import WidgetContracts.Proofs.Output.Overwriting
import WidgetContracts.Proofs.Publish.Keeping
import WidgetContracts.Proofs.Entry.Duplicates
import WidgetContracts.Proofs.Resolve.Degradation
import WidgetContracts.Proofs.Resolve.Trails
import WidgetContracts.Proofs.Contract.Content
import WidgetContracts.Proofs.Contract.References
import WidgetContracts.Proofs.Generate.Account
import WidgetContracts.Proofs.Task.Steps
import WidgetContracts.Proofs.Task.Generation
import WidgetContracts.Proofs.Naming.Signs
import WidgetContracts.Proofs.FileTree.Folders
import WidgetContracts.Proofs.Output.Confinement
import WidgetContracts.Proofs.Publish.Staying
import WidgetContracts.Proofs.Reading.Outcomes
import WidgetContracts.Proofs.Reading.Written
import WidgetContracts.Proofs.Document.Spelling
import WidgetContracts.Proofs.Entry.Strictness
import WidgetContracts.Proofs.Contract.Keys
import WidgetContracts.Proofs.Contract.Captions
import WidgetContracts.Proofs.Entry.Positions
import WidgetContracts.Proofs.Contract.Indentation
import WidgetContracts.Proofs.Document.Unfolding
import WidgetContracts.Proofs.Reading.Sharing
import WidgetContracts.Proofs.Entry.Isolation
import WidgetContracts.Proofs.Markup.Outcomes
import WidgetContracts.Proofs.Markup.Words
import WidgetContracts.Proofs.Markup.Scalars
import WidgetContracts.Proofs.Markup.Scan
import WidgetContracts.Proofs.Markup.Nodes
import WidgetContracts.Proofs.Markup.Merging
import WidgetContracts.Proofs.Markup.Building
import WidgetContracts.Proofs.Configuration.Reports
import WidgetContracts.Proofs.Reading.Keys
import WidgetContracts.Proofs.Reading.Renaming
import WidgetContracts.Proofs.Reading.Target
import WidgetContracts.Proofs.Configuration.Listing
import WidgetContracts.Proofs.Store.Replies
import WidgetContracts.Proofs.FileTree.Rewriting
import WidgetContracts.Proofs.Naming.Spellings
import WidgetContracts.Proofs.Output.Targets
import WidgetContracts.Proofs.Remote.Addresses
