import Parlance.Calendar
import Parlance.Calendar.Pattern
import Parlance.Calendar.Skeleton
import Parlance.Code.Module
import Parlance.CommandLine
import Parlance.Config
import Parlance.Config.Source
import Parlance.Conventions.Basic
import Parlance.Conventions.Compact
import Parlance.Conventions.Currency
import Parlance.Conventions.English
import Parlance.Conventions.French
import Parlance.Conventions.German
import Parlance.Conventions.Japanese
import Parlance.Conventions.Region
import Parlance.Decode
import Parlance.Formatter
import Parlance.Formatter.Date
import Parlance.Formatter.Number
import Parlance.Locale.Code
import Parlance.Main
import Parlance.Message.Visitor
import Parlance.Number.Fault
import Parlance.Number.Pattern.Fraction
import Parlance.Number.Pattern.Parse
import Parlance.Number.Pattern.Render
import Parlance.Number.Quantity
import Parlance.Plural
import Parlance.Plural.Category
import Parlance.Plural.Languages
import Parlance.Plural.Rule
import Parlance.Selection
import Parlance.Session
import Parlance.Toml.Document
import Parlance.Yaml.Composition
import Parlance.Yaml.Cursor
import Parlance.Yaml.Fault
import Parlance.Yaml.Node
import Parlance.Yaml.Scalar
import Parlance.Yaml.Token
import Parlance.Proofs.Message.Grammar
import Parlance.Proofs.Message.Joining
import Parlance.Proofs.Message.Refusing
import Parlance.Proofs.Message.Completeness
import Parlance.Proofs.Message.Scanning
import Parlance.Proofs.Message.Soundness
import Parlance.Proofs.Message.Unambiguity
import Parlance.Proofs.Message.Acceptance
import Parlance.Proofs.Message.Shape
import Parlance.Proofs.Message.Printing
import Parlance.Proofs.Message.RoundTrip
import Parlance.Proofs.Code.Coverage
import Parlance.Proofs.Code.Choosing
import Parlance.Proofs.Code.Meaning
import Parlance.Proofs.Code.Lexing
import Parlance.Proofs.Code.Reading
import Parlance.Proofs.Code.Spelling
import Parlance.Proofs.Code.Image
import Parlance.Proofs.Code.Bodies
import Parlance.Proofs.Code.Members
import Parlance.Proofs.Message.Occurrence
import Parlance.Proofs.Placeholder.Inference
import Parlance.Proofs.Placeholder.Overrides
import Parlance.Proofs.Entry.Building
import Parlance.Proofs.Code.Emission
import Parlance.Proofs.Session.Calls
import Parlance.Proofs.Session.Loading
import Parlance.Proofs.Message.Relaxing
import Parlance.Proofs.FileSystem.Writing
import Parlance.Proofs.Session.Runs
import Parlance.Proofs.Code.Agreement
import Parlance.Proofs.Entry.Recovery
import Parlance.Proofs.Collection.Consistency
import Parlance.Proofs.Entry.Order
import Parlance.Proofs.Message.Braces
import Parlance.Proofs.Text.Casing
import Parlance.Proofs.Locale.Tags
import Parlance.Proofs.Code.Classes
import Parlance.Proofs.Code.Tables
import Parlance.Proofs.Code.Overriding
import Parlance.Proofs.Code.Documentation
import Parlance.Proofs.Code.Names
import Parlance.Proofs.Code.Skeleton
import Parlance.Proofs.Message.Cutting
import Parlance.Proofs.Message.Modes
import Parlance.Proofs.Message.Places
import Parlance.Proofs.Message.Reporting
import Parlance.Proofs.Config.Options
import Parlance.Proofs.Config.Sources
import Parlance.Proofs.Bundle.Loading
import Parlance.Proofs.Message.Covering
import Parlance.Proofs.Message.Tiling
import Parlance.Proofs.Message.Regularity
import Parlance.Proofs.Code.Reads
import Parlance.Proofs.Code.Locals
import Parlance.Proofs.Code.Parameters
import Parlance.Proofs.Code.Scoping
import Parlance.Proofs.Message.Outline
import Parlance.Proofs.Message.Visiting
import Parlance.Proofs.Placeholder.Failing
import Parlance.Proofs.Code.Reaching
import Parlance.Proofs.Diagnostic.Pointing
import Parlance.Proofs.Placeholder.Growing
import Parlance.Proofs.Placeholder.Redeclaring
import Parlance.Proofs.Entry.Relaxed
import Parlance.Proofs.Number.Nearest
import Parlance.Proofs.Number.Shortest
import Parlance.Proofs.Number.Notation
import Parlance.Proofs.Json.Decoding
import Parlance.Proofs.Code.Literals
import Parlance.Proofs.Code.Displaying
import Parlance.Proofs.Code.Calling
import Parlance.Proofs.Code.Options
import Parlance.Proofs.Entry.Options
import Parlance.Proofs.Text.CodePoints
import Parlance.Proofs.Code.Escapes
import Parlance.Proofs.Code.Quoting
import Parlance.Proofs.Code.Docstrings
import Parlance.Proofs.Session.Arranging
import Parlance.Proofs.Code.Refusals
import Parlance.Proofs.Session.Reachable
import Parlance.Proofs.Session.Reports
import Parlance.Proofs.Locale.Filenames
import Parlance.Proofs.Config.Settings
import Parlance.Proofs.Formatter.Symbols
import Parlance.Proofs.Code.Identifiers
