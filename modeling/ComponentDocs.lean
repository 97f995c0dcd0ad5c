import ComponentDocs.CommandLine
import ComponentDocs.Decimal.Binary64
import ComponentDocs.DefaultValue
import ComponentDocs.DocComment
import ComponentDocs.Document
import ComponentDocs.Extraction
import ComponentDocs.Failure
import ComponentDocs.FileTree
import ComponentDocs.Files
import ComponentDocs.Generation
import ComponentDocs.Heritage
import ComponentDocs.Json.Printer
import ComponentDocs.Json.Reader
import ComponentDocs.Json.Value
import ComponentDocs.Log
import ComponentDocs.Main
import ComponentDocs.Options
import ComponentDocs.Options.Reader
import ComponentDocs.OrderedMap
import ComponentDocs.Path
import ComponentDocs.Proofs.Accumulation
import ComponentDocs.Proofs.AssembledProps
import ComponentDocs.Proofs.ByteSlices
import ComponentDocs.Proofs.CommandRuns
import ComponentDocs.Proofs.CommentChoice
import ComponentDocs.Proofs.CommentLayout
import ComponentDocs.Proofs.CommentText
import ComponentDocs.Proofs.ComponentForms
import ComponentDocs.Proofs.Composition
import ComponentDocs.Proofs.Continuation
import ComponentDocs.Proofs.DefaultEntries
import ComponentDocs.Proofs.DefaultExports
import ComponentDocs.Proofs.DocumentedProps
import ComponentDocs.Proofs.EntryOutcomes
import ComponentDocs.Proofs.FileWriting
import ComponentDocs.Proofs.Findings
import ComponentDocs.Proofs.HeritageModes
import ComponentDocs.Proofs.Inheritance
import ComponentDocs.Proofs.JoinedNames
import ComponentDocs.Proofs.JsonText
import ComponentDocs.Proofs.Locality
import ComponentDocs.Proofs.MarkerLists
import ComponentDocs.Proofs.Namespaces
import ComponentDocs.Proofs.OrderedMap
import ComponentDocs.Proofs.Outcomes
import ComponentDocs.Proofs.OutputOptions
import ComponentDocs.Proofs.PathResolution
import ComponentDocs.Proofs.PlainExtension
import ComponentDocs.Proofs.Precedence
import ComponentDocs.Proofs.Pruning
import ComponentDocs.Proofs.Reachability
import ComponentDocs.Proofs.Rendering
import ComponentDocs.Proofs.SettingTables
import ComponentDocs.Proofs.ShapeDeclarations
import ComponentDocs.Proofs.ShapeSpellings
import ComponentDocs.Proofs.Slices
import ComponentDocs.Proofs.Spans
import ComponentDocs.Proofs.TextCutting
import ComponentDocs.Proofs.UnionMembers
import ComponentDocs.Proofs.Visits
import ComponentDocs.Proofs.WrittenOptions
import ComponentDocs.RawDocument
import ComponentDocs.Run
import ComponentDocs.Settings.Environment
import ComponentDocs.Settings.Loader
import ComponentDocs.Settings.Value
import ComponentDocs.Shape
import ComponentDocs.Source.File
import ComponentDocs.Source.Grammar
import ComponentDocs.Source.Grammar.Basic
import ComponentDocs.Source.Grammar.Expressions
import ComponentDocs.Source.Grammar.Markup
import ComponentDocs.Source.Grammar.Patterns
import ComponentDocs.Source.Grammar.Statements
import ComponentDocs.Source.Grammar.Targets
import ComponentDocs.Source.Grammar.Types
import ComponentDocs.Source.Language
import ComponentDocs.Source.Literal
import ComponentDocs.Source.Mentions
import ComponentDocs.Source.Token
import ComponentDocs.Source.Tree
import ComponentDocs.Source.Trivia
import ComponentDocs.Text.Blank
import ComponentDocs.Text.Identifier
import ComponentDocs.Text.Lines
import ComponentDocs.Text.Quoted
import ComponentDocs.Text.Slice
import ComponentDocs.Toml.Reader
import ComponentDocs.Toml.Scalar
