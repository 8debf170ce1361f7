import Interlink.Analysis
import Interlink.Assembly
import Interlink.Braced.Expressions
import Interlink.Braced.Facts
import Interlink.Braced.Goal
import Interlink.Braced.Markup
import Interlink.Braced.Patterns
import Interlink.Braced.Statements
import Interlink.Braced.Token
import Interlink.Braced.Tree
import Interlink.Braced.Types
import Interlink.Command.AnalysisText
import Interlink.Command.Answer
import Interlink.Command.Data
import Interlink.Command.EntryText
import Interlink.Command.Request
import Interlink.Config
import Interlink.ConfigFile
import Interlink.Consistency
import Interlink.Coverage
import Interlink.DependencyGraph
import Interlink.Fact
import Interlink.Failure
import Interlink.Fault
import Interlink.Feature
import Interlink.Files.FileTree
import Interlink.Files.Glob
import Interlink.Files.IgnoreRules
import Interlink.Files.Walk
import Interlink.Finding
import Interlink.FrontMatter
import Interlink.Glossary.Analysis
import Interlink.Glossary.Cycles
import Interlink.Glossary.Definition
import Interlink.Glossary.Document
import Interlink.Glossary.Markup
import Interlink.Glossary.NameTable
import Interlink.Glossary.Registry
import Interlink.Glossary.Validation
import Interlink.Index
import Interlink.Json.Number
import Interlink.Json.Reader
import Interlink.Json.Value
import Interlink.Json.Writer
import Interlink.KeySet
import Interlink.Language
import Interlink.LanguageSet
import Interlink.Languages
import Interlink.Number.Binary64
import Interlink.Number.Numeral
import Interlink.Offside.Expressions
import Interlink.Offside.Facts
import Interlink.Offside.Statements
import Interlink.Offside.Token
import Interlink.Offside.Tree
import Interlink.Path
import Interlink.Project
import Interlink.Proofs.Accumulation
import Interlink.Proofs.Analysis
import Interlink.Proofs.Assembly
import Interlink.Proofs.Consistency
import Interlink.Proofs.Coverage
import Interlink.Proofs.FrontMatter
import Interlink.Proofs.Gaps
import Interlink.Proofs.Glossary.Aliases
import Interlink.Proofs.Glossary.Circles
import Interlink.Proofs.Glossary.Cycles
import Interlink.Proofs.Glossary.Document
import Interlink.Proofs.Glossary.Mutual
import Interlink.Proofs.Glossary.NameTable
import Interlink.Proofs.Glossary.Registry
import Interlink.Proofs.Graph.Coherence
import Interlink.Proofs.Graph.Construction
import Interlink.Proofs.Graph.Cycles
import Interlink.Proofs.IndexCoverage
import Interlink.Proofs.Json.Shape
import Interlink.Proofs.Json.Text
import Interlink.Proofs.Listing
import Interlink.Proofs.Number.Decimal
import Interlink.Proofs.Reach
import Interlink.Proofs.Record
import Interlink.Proofs.Report
import Interlink.Proofs.Scan
import Interlink.Proofs.Snapshot
import Interlink.Proofs.TermKeys
import Interlink.Proofs.TermQuery
import Interlink.Proofs.Timestamp.Calendar
import Interlink.Proofs.Timestamp.Text
import Interlink.Reach
import Interlink.Record
import Interlink.Resolver
import Interlink.Scan
import Interlink.Snapshot
import Interlink.SourceFile
import Interlink.Syntax.Reader
import Interlink.Table
import Interlink.Text.Alphanumeric
import Interlink.Text.Blank
import Interlink.Text.Columns
import Interlink.Text.Cut
import Interlink.Text.Identifier
import Interlink.Text.Lines
import Interlink.Text.LowerCase
import Interlink.Text.Quoted
import Interlink.Text.Quotes
import Interlink.Text.Ranges
import Interlink.Text.Slug
import Interlink.Timestamp
import Interlink.Toml.Reader
import Interlink.Toml.Value
import Interlink.Yaml.Layout
import Interlink.Yaml.Node
import Interlink.Yaml.Place
import Interlink.Yaml.Scalar
import Interlink.Yaml.Token
import Interlink.Yaml.Value
import Interlink.Proofs.Glossary.Usage
import Interlink.Proofs.Glossary.RuleLevels
import Interlink.Proofs.Glossary.Visible
import Interlink.Proofs.Glossary.Parts
import Interlink.Proofs.Glossary.Composition
import Interlink.Proofs.Glossary.Searched
import Interlink.Proofs.Glossary.SpanFences
import Interlink.Proofs.Glossary.Brackets
import Interlink.Proofs.Glossary.Citations
import Interlink.Proofs.Glossary.ProperNames
import Interlink.Proofs.Glossary.SpanWidth
import Interlink.Proofs.Resolver
import Interlink.Proofs.RelativeImports
import Interlink.Proofs.Braced.Bindings
import Interlink.Proofs.Documents
import Interlink.Proofs.TermUses
import Interlink.Proofs.Offside.Imports
import Interlink.Proofs.Offside.Exports
import Interlink.Proofs.Offside.Targets
import Interlink.Proofs.Glossary.Privacy
import Interlink.Proofs.Interfaces
import Interlink.Proofs.Stats
import Interlink.Proofs.Glossary.Search
import Interlink.Proofs.LanguageSet
import Interlink.Proofs.Text.Slug
import Interlink.Proofs.Glossary.Keywords
import Interlink.Proofs.Glossary.AttributeLines
