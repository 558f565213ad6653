import VocabBindings.Calendar.Clock
import VocabBindings.Calendar.Date
import VocabBindings.Calendar.Duration
import VocabBindings.CommandLine.Options
import VocabBindings.CommandLine.Run
import VocabBindings.Decimal.Binary64
import VocabBindings.Decimal.Numeral
import VocabBindings.Decimal.Shortest
import VocabBindings.Files.Message
import VocabBindings.Files.Path
import VocabBindings.Files.Pattern
import VocabBindings.Files.Tree
import VocabBindings.Json.Reader
import VocabBindings.Json.Token
import VocabBindings.Json.Value
import VocabBindings.Keyed
import VocabBindings.Main
import VocabBindings.Module.Output
import VocabBindings.Module.Package
import VocabBindings.Module.Piece
import VocabBindings.Module.Templates
import VocabBindings.Name.Case
import VocabBindings.Name.Identifier
import VocabBindings.Name.Namespace
import VocabBindings.NameSet
import VocabBindings.Note
import VocabBindings.Rdf.Datatype
import VocabBindings.Rdf.Graph
import VocabBindings.Rdf.Lexical
import VocabBindings.Rdf.NTriples
import VocabBindings.Rdf.Relative
import VocabBindings.Rdf.Turtle.Literal
import VocabBindings.Rdf.Turtle.Name
import VocabBindings.Rdf.Turtle.Reader
import VocabBindings.Rdf.Turtle.Token
import VocabBindings.Resolve.Ancestry
import VocabBindings.Resolve.Context
import VocabBindings.Resolve.Message
import VocabBindings.Resolve.Outline
import VocabBindings.Resolve.Run
import VocabBindings.Resolve.TypeNaming
import VocabBindings.Session
import VocabBindings.Settings
import VocabBindings.Snapshot.Cache
import VocabBindings.Snapshot.JsonLd
import VocabBindings.Snapshot.Rdfs
import VocabBindings.Snapshot.Read
import VocabBindings.Snapshot.Unavailable
import VocabBindings.Snapshot.UrlPattern
import VocabBindings.Text.Alphanumeric
import VocabBindings.Text.Base64
import VocabBindings.Text.Basic
import VocabBindings.Text.Blank
import VocabBindings.Text.Chunk
import VocabBindings.Text.Composition
import VocabBindings.Text.Digits
import VocabBindings.Text.Direction
import VocabBindings.Text.Layout
import VocabBindings.Text.Lines
import VocabBindings.Text.Lowercase
import VocabBindings.Text.Markup
import VocabBindings.Text.Printable
import VocabBindings.Text.Punycode
import VocabBindings.Text.Quoted
import VocabBindings.Text.Utf8
import VocabBindings.Text.Wrapping
import VocabBindings.Vocabulary.Entry
import VocabBindings.Vocabulary.Index
import VocabBindings.Vocabulary.Terms
import VocabBindings.Web.DataAddress
import VocabBindings.Web.Download
import VocabBindings.Web.Label
import VocabBindings.Web.LabelCharacters
import VocabBindings.Web.NumericHost
import VocabBindings.Web.PercentEncoding
import VocabBindings.Web.Reference
import VocabBindings.Web.Url
import VocabBindings.Proofs.Ancestry.Discovery
import VocabBindings.Proofs.Ancestry.Descent
import VocabBindings.Proofs.Ancestry.Requests
import VocabBindings.Proofs.Resolution.Declared
import VocabBindings.Proofs.Resolution.Outcome
import VocabBindings.Proofs.Package.Files
import VocabBindings.Proofs.Package.Restriction
import VocabBindings.Proofs.Resolution.Gathering
import VocabBindings.Proofs.Module.Reading
import VocabBindings.Proofs.Text.Rows
import VocabBindings.Proofs.Module.Description
import VocabBindings.Proofs.Module.Trait
import VocabBindings.Proofs.Files.Walk
import VocabBindings.Proofs.Files.Nodes
import VocabBindings.Proofs.Files.Making
import VocabBindings.Proofs.Files.Matching
import VocabBindings.Proofs.Package.Preparation
import VocabBindings.Proofs.Text.Sorting
import VocabBindings.Proofs.Snapshot.Description
import VocabBindings.Proofs.Snapshot.Document
import VocabBindings.Proofs.Snapshot.Graph
import VocabBindings.Proofs.Snapshot.Agreement
import VocabBindings.Proofs.Files.Writing
import VocabBindings.Proofs.Snapshot.Cache
import VocabBindings.Proofs.Snapshot.Calls
import VocabBindings.Proofs.Session.Steps
import VocabBindings.Proofs.Session.Untouched
import VocabBindings.Proofs.Package.Modules
import VocabBindings.Proofs.Package.Writing
import VocabBindings.Proofs.Package.Output
import VocabBindings.Proofs.Session.Saved
import VocabBindings.Proofs.Snapshot.Layers
import VocabBindings.Proofs.Snapshot.Spelling
import VocabBindings.Proofs.Snapshot.TripleOrder
import VocabBindings.Proofs.Snapshot.Failures
import VocabBindings.Proofs.Vocabulary.Acceptance
import VocabBindings.Proofs.Vocabulary.Remaining
import VocabBindings.Proofs.Ancestry.Lookup
import VocabBindings.Proofs.Resolution.Replaced
import VocabBindings.Proofs.Resolution.Reordered
import VocabBindings.Proofs.Ancestry.Calls
import VocabBindings.Proofs.Session.Results
import VocabBindings.Proofs.Resolution.Incremental
import VocabBindings.Proofs.Resolution.Suggestions
import VocabBindings.Proofs.Name.Identifier
import VocabBindings.Proofs.Module.Assignment
import VocabBindings.Proofs.Resolution.Identifiers
import VocabBindings.Proofs.Resolution.PrintedNames
import VocabBindings.Proofs.Snapshot.Origin
import VocabBindings.Proofs.Ancestry.Lineage
import VocabBindings.Proofs.Name.FieldName
import VocabBindings.Proofs.Resolution.Fields
import VocabBindings.Proofs.Module.Import
import VocabBindings.Proofs.Package.Imports
import VocabBindings.Proofs.Text.Lowercase
import VocabBindings.Proofs.Name.CamelCase
import VocabBindings.Proofs.Name.Repetition
import VocabBindings.Proofs.Module.Escape
import VocabBindings.Proofs.Text.Markup
import VocabBindings.Proofs.Vocabulary.Additions
import VocabBindings.Proofs.Settings
import VocabBindings.Proofs.Resolution.Annotations
import VocabBindings.Proofs.Snapshot.References
import VocabBindings.Proofs.Ancestry.Pops
import VocabBindings.Proofs.Resolution.Kinds
import VocabBindings.Proofs.Snapshot.Unfinished
import VocabBindings.Proofs.Text.Filling
import VocabBindings.Proofs.Module.Block
