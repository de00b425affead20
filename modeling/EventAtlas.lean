import EventAtlas.Analysis
import EventAtlas.Api.Endpoint
import EventAtlas.Api.Index
import EventAtlas.Api.SdkCall
import EventAtlas.Api.WrapperCall
import EventAtlas.ClassId
import EventAtlas.CommandLine
import EventAtlas.CommandLine.Option
import EventAtlas.Coverage
import EventAtlas.Diagram
import EventAtlas.Diagram.Dot
import EventAtlas.Diagram.Mermaid
import EventAtlas.Diagram.Save
import EventAtlas.Diagram.Style
import EventAtlas.Documentation
import EventAtlas.Failure
import EventAtlas.Flow.Graph
import EventAtlas.Flow.NodeId
import EventAtlas.Flow.Slug
import EventAtlas.Gap
import EventAtlas.Link
import EventAtlas.Main
import EventAtlas.NameSet
import EventAtlas.Number.Binary64
import EventAtlas.Number.Numeral
import EventAtlas.Number.Shortest
import EventAtlas.Number.Total
import EventAtlas.Observer
import EventAtlas.Path
import EventAtlas.Path.Glob
import EventAtlas.Proofs.Analysis
import EventAtlas.Proofs.FirstOccurrence
import EventAtlas.Proofs.Flow.Graph
import EventAtlas.Proofs.Flow.Labels
import EventAtlas.Proofs.Flow.NodeId
import EventAtlas.Proofs.Flow.Request
import EventAtlas.Proofs.Flow.Slug
import EventAtlas.Proofs.Gap
import EventAtlas.Proofs.NameSet
import EventAtlas.Proofs.Observer
import EventAtlas.Proofs.Report
import EventAtlas.Proofs.Result
import EventAtlas.Proofs.Roster
import EventAtlas.Proofs.Scope
import EventAtlas.Proofs.Source.Constructor
import EventAtlas.Proofs.Survey.Attribution
import EventAtlas.Proofs.Survey.FirstWins
import EventAtlas.Proofs.Survey.Index
import EventAtlas.Proofs.Survey.Listing
import EventAtlas.Proofs.Survey.Locality
import EventAtlas.Proofs.Survey.Resolve
import EventAtlas.Proofs.Text.Blank
import EventAtlas.Proofs.Text.Halves
import EventAtlas.Proofs.Text.Reader
import EventAtlas.Proofs.Trace
import EventAtlas.Proofs.Tree
import EventAtlas.Report
import EventAtlas.Report.Catalog
import EventAtlas.Report.Cell
import EventAtlas.Roster
import EventAtlas.Settings
import EventAtlas.Source.Constructor
import EventAtlas.Source.Header
import EventAtlas.Source.Import
import EventAtlas.Survey
import EventAtlas.Survey.Index
import EventAtlas.Survey.Links
import EventAtlas.Survey.Resolve
import EventAtlas.Text.Base64
import EventAtlas.Text.Blank
import EventAtlas.Text.CodeRange
import EventAtlas.Text.Digit
import EventAtlas.Text.Escape
import EventAtlas.Text.Field
import EventAtlas.Text.Fold
import EventAtlas.Text.Lower
import EventAtlas.Text.Newline
import EventAtlas.Text.Printable
import EventAtlas.Text.Quoted
import EventAtlas.Text.Reader
import EventAtlas.Text.Utf8
import EventAtlas.Text.Word
import EventAtlas.Trace
import EventAtlas.Tree
import EventAtlas.Xml.Charset
import EventAtlas.Xml.Content
import EventAtlas.Xml.Declaration
import EventAtlas.Xml.Declared
import EventAtlas.Xml.Doctype
import EventAtlas.Xml.Document
import EventAtlas.Xml.Element
import EventAtlas.Xml.Encoding
import EventAtlas.Xml.Entity
import EventAtlas.Xml.Fault
import EventAtlas.Xml.Mark
import EventAtlas.Xml.Name
import EventAtlas.Xml.Namespace
import EventAtlas.Xml.Token
import EventAtlas.Yaml.Cursor
import EventAtlas.Yaml.Fault
import EventAtlas.Yaml.Load
import EventAtlas.Yaml.Node
import EventAtlas.Yaml.Scalar.Block
import EventAtlas.Yaml.Scalar.Plain
import EventAtlas.Yaml.Scalar.Quoted
import EventAtlas.Yaml.Tag
import EventAtlas.Yaml.Timestamp
import EventAtlas.Yaml.Token
import EventAtlas.Yaml.Token.Lexer
import EventAtlas.Yaml.Token.Property
import EventAtlas.Yaml.Value
import EventAtlas.Yaml.Value.Display
import EventAtlas.Yaml.Written
import EventAtlas.Proofs.Survey.Merge
import EventAtlas.Proofs.Roster.Agree
import EventAtlas.Proofs.Report.Order
import EventAtlas.Proofs.Diagram.Dot
import EventAtlas.Proofs.Documentation
import EventAtlas.Proofs.Diagram.Mermaid
import EventAtlas.Proofs.Tree.Lookup
import EventAtlas.Proofs.Survey.Links
import EventAtlas.Proofs.Survey.Resolvable
import EventAtlas.Proofs.Text.Plain
import EventAtlas.Proofs.Api.Plain
import EventAtlas.Proofs.Report.Row
import EventAtlas.Proofs.Report.Table
import EventAtlas.Proofs.ClassId
import EventAtlas.Proofs.Path
import EventAtlas.Proofs.Link
import EventAtlas.Proofs.Survey.Identifiers
import EventAtlas.Proofs.Survey.Confined
import EventAtlas.Proofs.Tree.Growth
import EventAtlas.Proofs.Survey.Search
import EventAtlas.Proofs.Survey.Growth
import EventAtlas.Proofs.Documentation.Success
import EventAtlas.Proofs.Documentation.Rerun
import EventAtlas.Proofs.Report.Source
import EventAtlas.Proofs.Survey.Respelling
import EventAtlas.Proofs.Survey.Invariance
import EventAtlas.Proofs.Documentation.Spelling
import EventAtlas.Proofs.Text.Run
import EventAtlas.Proofs.Api.Endpoint
import EventAtlas.Proofs.Documentation.Footprint
import EventAtlas.Proofs.CommandLine
import EventAtlas.Proofs.Text.Lower
import EventAtlas.Proofs.Survey.DocumentOrder
import EventAtlas.Proofs.Text.Keyword
import EventAtlas.Proofs.Text.Search
import EventAtlas.Proofs.Api.SdkCall
import EventAtlas.Proofs.Api.WrapperCall
import EventAtlas.Proofs.Api.Agreement
import EventAtlas.Proofs.Text.Parentheses
import EventAtlas.Proofs.Api.Argument
import EventAtlas.Proofs.Api.Vocabulary
import EventAtlas.Proofs.Text.Place
import EventAtlas.Proofs.Source.Parameter
import EventAtlas.Proofs.Source.Fragment
import EventAtlas.Proofs.Scope.Spelling
import EventAtlas.Proofs.Text.LineStart
import EventAtlas.Proofs.Source.Import
import EventAtlas.Proofs.Source.Header
import EventAtlas.Proofs.Report.Catalog
import EventAtlas.Proofs.Settings.Nearest
import EventAtlas.Proofs.Report.Cell
import EventAtlas.Proofs.Documentation.Failure
import EventAtlas.Proofs.Settings.Failure
import EventAtlas.Proofs.CommandLine.Named
