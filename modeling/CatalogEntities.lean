import CatalogEntities.Assoc
import CatalogEntities.Catalog.ColumnType
import CatalogEntities.Catalog.EnumLiteral
import CatalogEntities.Catalog.Row
import CatalogEntities.Catalog.Source
import CatalogEntities.Catalog.Table
import CatalogEntities.Code.Expr
import CatalogEntities.Command.Arguments
import CatalogEntities.Command.Session
import CatalogEntities.Command.Usage
import CatalogEntities.Connection.Mask
import CatalogEntities.Connection.Reader
import CatalogEntities.Connection.Target
import CatalogEntities.Connection.Url
import CatalogEntities.Entity.Basic
import CatalogEntities.Entity.Build
import CatalogEntities.Entity.Plan
import CatalogEntities.Entity.Statements
import CatalogEntities.Failure
import CatalogEntities.Files.Change
import CatalogEntities.Files.Path
import CatalogEntities.Files.Tree
import CatalogEntities.Findings
import CatalogEntities.Format.Item
import CatalogEntities.Format.Line
import CatalogEntities.Format.Literal
import CatalogEntities.Format.Source
import CatalogEntities.Format.Statement
import CatalogEntities.Format.Token
import CatalogEntities.Generation.Directory
import CatalogEntities.Generation.Rendering
import CatalogEntities.Generation.Run
import CatalogEntities.Generation.Session
import CatalogEntities.Generation.Writing
import CatalogEntities.Graph
import CatalogEntities.Layout.Modules
import CatalogEntities.Layout.Page
import CatalogEntities.Layout.Template
import CatalogEntities.Layout.Timestamp
import CatalogEntities.Log.Console
import CatalogEntities.Log.Pattern
import CatalogEntities.Log.Record
import CatalogEntities.Main
import CatalogEntities.Naming.EnumName
import CatalogEntities.Naming.Identifier
import CatalogEntities.Naming.MemberNames
import CatalogEntities.Naming.Relation
import CatalogEntities.Naming.Reserved
import CatalogEntities.Naming.Words
import CatalogEntities.Notice
import CatalogEntities.Number.Binary64
import CatalogEntities.Number.DecimalText
import CatalogEntities.Number.Integer
import CatalogEntities.Number.Shortest
import CatalogEntities.Proofs.Assoc
import CatalogEntities.Proofs.Catalog
import CatalogEntities.Proofs.Entity.Build
import CatalogEntities.Proofs.Entity.Collisions
import CatalogEntities.Proofs.Entity.Coverage
import CatalogEntities.Proofs.Entity.MemberNames
import CatalogEntities.Proofs.Entity.Pairing
import CatalogEntities.Proofs.Entity.Plan
import CatalogEntities.Proofs.Generation.Modules
import CatalogEntities.Proofs.Generation.Rendering
import CatalogEntities.Proofs.Graph.Forward
import CatalogEntities.Proofs.Graph.Inverse
import CatalogEntities.Proofs.Graph.ManyToMany
import CatalogEntities.Proofs.Graph.Names
import CatalogEntities.Proofs.Layout.Shape
import CatalogEntities.Proofs.Naming.Granted
import CatalogEntities.Proofs.Outcome
import CatalogEntities.Report
import CatalogEntities.Settings.Basic
import CatalogEntities.Settings.DatabaseUrl
import CatalogEntities.Settings.EnvironmentFile
import CatalogEntities.Settings.Load
import CatalogEntities.Storage.DataSource
import CatalogEntities.Storage.Transform
import CatalogEntities.Text.Case
import CatalogEntities.Text.CaseTable
import CatalogEntities.Text.CharClass
import CatalogEntities.Text.CharTable
import CatalogEntities.Text.CompositionTable
import CatalogEntities.Text.DecompositionTable
import CatalogEntities.Text.File
import CatalogEntities.Text.IdentifierTable
import CatalogEntities.Text.LetterTable
import CatalogEntities.Text.Literal
import CatalogEntities.Text.Normal
import CatalogEntities.Text.NumeralTable
import CatalogEntities.Text.Percent
import CatalogEntities.Text.PrintableTable
import CatalogEntities.Text.Span
import CatalogEntities.Text.Utf8
import CatalogEntities.Text.WidthTable
import CatalogEntities.Value
import CatalogEntities.Warning
import CatalogEntities.Yaml.Cursor
import CatalogEntities.Yaml.Document
import CatalogEntities.Yaml.Node
import CatalogEntities.Yaml.Scalar
import CatalogEntities.Yaml.Scalars
import CatalogEntities.Yaml.Tag
import CatalogEntities.Yaml.Token
import CatalogEntities.Proofs.Graph.Junctions
import CatalogEntities.Proofs.Generation.TableOrder
import CatalogEntities.Proofs.Naming.Numbered
import CatalogEntities.Proofs.Entity.Attributes
import CatalogEntities.Proofs.Entity.References
import CatalogEntities.Proofs.Connection.Mask
import CatalogEntities.Proofs.Graph.Referenced
import CatalogEntities.Proofs.Generation.EntryNames
import CatalogEntities.Proofs.Generation.Run
import CatalogEntities.Storage.EnumClass
import CatalogEntities.Proofs.Text.CharClass
import CatalogEntities.Proofs.Text.Case
import CatalogEntities.Proofs.Text.Span
import CatalogEntities.Proofs.Text.Utf8
import CatalogEntities.Proofs.Text.Percent
import CatalogEntities.Proofs.Number.Integer
import CatalogEntities.Proofs.Connection.Place
import CatalogEntities.Proofs.Connection.Written
import CatalogEntities.Proofs.Connection.Query
import CatalogEntities.Proofs.Catalog.EnumLiteral
import CatalogEntities.Proofs.Naming.EnumName
import CatalogEntities.Proofs.Storage.EnumClass
import CatalogEntities.Proofs.Naming.InTurn
import CatalogEntities.Proofs.Entity.Enumerations
import CatalogEntities.Proofs.Entity.ColumnNames
import CatalogEntities.Proofs.Code.Reads
import CatalogEntities.Proofs.Entity.ColumnCall
import CatalogEntities.Proofs.Entity.ClassBody
import CatalogEntities.Proofs.Layout.EntityModule
import CatalogEntities.Proofs.Entity.Imports
import CatalogEntities.Proofs.Text.Identifier
import CatalogEntities.Proofs.Naming.Spelling
import CatalogEntities.Proofs.Entity.MemberSpelling
import CatalogEntities.Proofs.Text.Literal
import CatalogEntities.Proofs.Number.IntegerText
import CatalogEntities.Proofs.Code.Call
import CatalogEntities.Proofs.Catalog.ColumnType
import CatalogEntities.Proofs.Entity.Defaults
import CatalogEntities.Proofs.Entity.TruthDefault
import CatalogEntities.Proofs.Entity.QuotedDefault
import CatalogEntities.Proofs.Entity.DeclaredColumns
import CatalogEntities.Proofs.Text.Capital
import CatalogEntities.Proofs.Text.Normal
import CatalogEntities.Proofs.Code.StoredName
import CatalogEntities.Proofs.Naming.ClassNames
import CatalogEntities.Proofs.Naming.ModuleNames
import CatalogEntities.Proofs.Generation.EntryImports
import CatalogEntities.Proofs.Generation.Placement
import CatalogEntities.Proofs.Text.LineLiterals
import CatalogEntities.Proofs.Code.Literals
import CatalogEntities.Proofs.Entity.CatalogText
import CatalogEntities.Proofs.Text.Digits
import CatalogEntities.Proofs.Number.DigitText
import CatalogEntities.Proofs.Catalog.Declaration
import CatalogEntities.Proofs.Catalog.Sizes
import CatalogEntities.Proofs.Catalog.Recognition
import CatalogEntities.Proofs.Connection.Engines
import CatalogEntities.Proofs.Number.Spelling
import CatalogEntities.Proofs.Storage.Transform
import CatalogEntities.Proofs.Layout.EntityPage
import CatalogEntities.Proofs.Layout.Spacing
import CatalogEntities.Proofs.Settings.Fields
import CatalogEntities.Proofs.Settings.Load
import CatalogEntities.Proofs.Text.QueryPairs
import CatalogEntities.Proofs.Connection.QueryValues
import CatalogEntities.Proofs.Connection.UrlSections
import CatalogEntities.Proofs.Connection.Reread
import CatalogEntities.Proofs.Connection.Spelled
import CatalogEntities.Proofs.Connection.DriverUrl
