import Tablewright.AccessModule.Block
import Tablewright.AccessModule.Call
import Tablewright.AccessModule.Literal
import Tablewright.AccessModule.MemberType
import Tablewright.AccessModule.Module
import Tablewright.AccessModule.Options
import Tablewright.AccessModule.Params
import Tablewright.AccessModule.SchemaSection
import Tablewright.AccessModule.TableSection
import Tablewright.Calendar.Date
import Tablewright.Calendar.Reading
import Tablewright.Calendar.Timestamp
import Tablewright.Command.Arguments
import Tablewright.Command.Config
import Tablewright.Command.Run
import Tablewright.Database.Basic
import Tablewright.Database.Definition
import Tablewright.Database.ForeignKeys
import Tablewright.Database.Limits
import Tablewright.Database.Run
import Tablewright.Database.Script
import Tablewright.Database.TableDefinition
import Tablewright.Database.Write
import Tablewright.Decimal.Binary64
import Tablewright.Decimal.Notation
import Tablewright.Decimal.Shortest
import Tablewright.Event
import Tablewright.Extraction.Catalog
import Tablewright.Extraction.Engine
import Tablewright.Extraction.Error
import Tablewright.Extraction.Strategy
import Tablewright.Files.Fault
import Tablewright.Files.System
import Tablewright.Files.Tree
import Tablewright.Json.Reader
import Tablewright.Json.Value
import Tablewright.Json.Writer
import Tablewright.Main
import Tablewright.Naming.Collision
import Tablewright.Naming.Identifier
import Tablewright.Naming.Words
import Tablewright.Outline.Line
import Tablewright.Outline.Phrase
import Tablewright.Outline.Scan
import Tablewright.Proofs.AccessModule.BoundFields
import Tablewright.Proofs.AccessModule.ColumnAliases
import Tablewright.Proofs.AccessModule.ConstantPaths
import Tablewright.Proofs.AccessModule.ContainedNames
import Tablewright.Proofs.AccessModule.DistinctConstants
import Tablewright.Proofs.AccessModule.EmbeddedScript
import Tablewright.Proofs.AccessModule.EnumerationMembers
import Tablewright.Proofs.AccessModule.FieldsMethod
import Tablewright.Proofs.AccessModule.ItemReading
import Tablewright.Proofs.AccessModule.LegalNames
import Tablewright.Proofs.AccessModule.LiteralReading
import Tablewright.Proofs.AccessModule.ModuleItems
import Tablewright.Proofs.AccessModule.ModuleReading
import Tablewright.Proofs.AccessModule.OptionPaths
import Tablewright.Proofs.AccessModule.Resolution
import Tablewright.Proofs.AccessModule.SchemaTrees
import Tablewright.Proofs.AccessModule.SourceParts
import Tablewright.Proofs.AccessModule.SourceReading
import Tablewright.Proofs.AccessModule.TableTrees
import Tablewright.Proofs.AccessModule.WriteFunctions
import Tablewright.Proofs.Calendar.Days
import Tablewright.Proofs.Calendar.Digits
import Tablewright.Proofs.Calendar.Order
import Tablewright.Proofs.Calendar.RoundTrip
import Tablewright.Proofs.Calendar.TextOrder
import Tablewright.Proofs.Command.Outputs
import Tablewright.Proofs.Database.BatchRun
import Tablewright.Proofs.Database.DeletionRun
import Tablewright.Proofs.Database.FixedText
import Tablewright.Proofs.Database.History
import Tablewright.Proofs.Database.IncrementedKey
import Tablewright.Proofs.Database.OneStatement
import Tablewright.Proofs.Database.Rows
import Tablewright.Proofs.Extraction.Agreement
import Tablewright.Proofs.Extraction.BuiltIn
import Tablewright.Proofs.Extraction.Catalog
import Tablewright.Proofs.Extraction.ColumnLines
import Tablewright.Proofs.Extraction.Declarations
import Tablewright.Proofs.Extraction.DefinedIncrements
import Tablewright.Proofs.Extraction.FixedScripts
import Tablewright.Proofs.Extraction.IncrementFlags
import Tablewright.Proofs.Extraction.IncrementSearch
import Tablewright.Proofs.Extraction.PrintedScripts
import Tablewright.Proofs.Extraction.SoundTables
import Tablewright.Proofs.Extraction.Statements
import Tablewright.Proofs.Extraction.StoredDeclarations
import Tablewright.Proofs.FallibleSteps
import Tablewright.Proofs.Files.Replacement
import Tablewright.Proofs.Json.ReadBack
import Tablewright.Proofs.Naming.AsciiNames
import Tablewright.Proofs.Naming.Collisions
import Tablewright.Proofs.Naming.Identifiers
import Tablewright.Proofs.Naming.LegalIdentifiers
import Tablewright.Proofs.Naming.LosslessWords
import Tablewright.Proofs.Naming.SpellingStyles
import Tablewright.Proofs.Naming.Words
import Tablewright.Proofs.Outline.Concatenation
import Tablewright.Proofs.Outline.Phrases
import Tablewright.Proofs.Outline.Printing
import Tablewright.Proofs.Outline.RoundTrip
import Tablewright.Proofs.Outline.Runs
import Tablewright.Proofs.Outline.Segmentation
import Tablewright.Proofs.Schema.Documents
import Tablewright.Proofs.Schema.FirstProblem
import Tablewright.Proofs.Session.Effects
import Tablewright.Proofs.Session.Transactions
import Tablewright.Proofs.Sql.ByteOrder
import Tablewright.Proofs.Sql.Comparison
import Tablewright.Proofs.Sql.Conditions
import Tablewright.Proofs.Sql.Consumption
import Tablewright.Proofs.Sql.DefinitionReading
import Tablewright.Proofs.Sql.Evaluation
import Tablewright.Proofs.Sql.Increments
import Tablewright.Proofs.Sql.Lexemes
import Tablewright.Proofs.Sql.Reading
import Tablewright.Proofs.Sql.Spelling
import Tablewright.Proofs.Statement.Batch
import Tablewright.Proofs.Statement.Binding
import Tablewright.Proofs.Statement.Deletion
import Tablewright.Proofs.Statement.Reading
import Tablewright.Proofs.Text.Ascii
import Tablewright.Proofs.Text.Lines
import Tablewright.Proofs.Text.Runs
import Tablewright.Proofs.Tracker.AddedTasks
import Tablewright.Proofs.Tracker.CallRuns
import Tablewright.Proofs.Tracker.Calls
import Tablewright.Proofs.Tracker.Consistency
import Tablewright.Proofs.Tracker.Contents
import Tablewright.Proofs.Tracker.Creation
import Tablewright.Proofs.Tracker.Deletions
import Tablewright.Proofs.Tracker.DueDates
import Tablewright.Proofs.Tracker.ExactDeletions
import Tablewright.Proofs.Tracker.FailedBatches
import Tablewright.Proofs.Tracker.Fetching
import Tablewright.Proofs.Tracker.LatestCompletions
import Tablewright.Proofs.Tracker.OperationCalls
import Tablewright.Proofs.Tracker.Operations
import Tablewright.Proofs.Tracker.RecordSteps
import Tablewright.Proofs.Tracker.Records
import Tablewright.Proofs.Tracker.References
import Tablewright.Proofs.Tracker.Replacement
import Tablewright.Proofs.Tracker.Sound
import Tablewright.Proofs.Tracker.StatusChanges
import Tablewright.Proofs.Tracker.StatusHistory
import Tablewright.Proofs.Tracker.StatusTrigger
import Tablewright.Proofs.Tracker.Steps
import Tablewright.Proofs.Tracker.Times
import Tablewright.Proofs.Tracker.WriteCalls
import Tablewright.Proofs.Tracker.Writes
import Tablewright.Schema.Affinity
import Tablewright.Schema.Document
import Tablewright.Schema.Table
import Tablewright.Schema.Validation
import Tablewright.Session.Basic
import Tablewright.Session.Error
import Tablewright.Session.Location
import Tablewright.Sql.Arithmetic
import Tablewright.Sql.Conversion
import Tablewright.Sql.Equality
import Tablewright.Sql.Eval
import Tablewright.Sql.Expr
import Tablewright.Sql.Failure
import Tablewright.Sql.Frame
import Tablewright.Sql.Function
import Tablewright.Sql.Grammar.Basic
import Tablewright.Sql.Grammar.Expr
import Tablewright.Sql.Grammar.Number
import Tablewright.Sql.Grammar.Statement
import Tablewright.Sql.Keyword
import Tablewright.Sql.Lexer
import Tablewright.Sql.Resolve
import Tablewright.Sql.Statement
import Tablewright.Sql.Token
import Tablewright.Sql.Value
import Tablewright.Statement.Batch
import Tablewright.Statement.Description
import Tablewright.Statement.Fields
import Tablewright.Statement.Filter
import Tablewright.Text.Alphabetic
import Tablewright.Text.Ascii
import Tablewright.Text.Blank
import Tablewright.Text.LetterCase
import Tablewright.Text.Lines
import Tablewright.Text.Printable
import Tablewright.Text.Quoted
import Tablewright.Text.Ranges
import Tablewright.Text.Search
import Tablewright.Text.WordChar
import Tablewright.Tracker.Store
import Tablewright.Tracker.Tables
import Tablewright.Tracker.Task
import Tablewright.Yaml.Layout
import Tablewright.Yaml.Node
import Tablewright.Yaml.Scalar
import Tablewright.Yaml.Token
