import DeadCode.Analysis.Context
import DeadCode.Analysis.Liveness
import DeadCode.Analysis.Rule
import DeadCode.Analysis.Rules
import DeadCode.Assoc
import DeadCode.Cache
import DeadCode.Calendar
import DeadCode.Cli.Arguments
import DeadCode.Cli.Command
import DeadCode.Cli.Run
import DeadCode.Collect.Imports
import DeadCode.Collect.References
import DeadCode.Collect.Symbols
import DeadCode.Collect.Walk
import DeadCode.Config.Basic
import DeadCode.Config.EnvFile
import DeadCode.Config.Settings
import DeadCode.Console.Table
import DeadCode.Console.Wrap
import DeadCode.DataFile
import DeadCode.Decimal
import DeadCode.Digest.Md5
import DeadCode.Disk
import DeadCode.Disk.Changes
import DeadCode.Encoding.Bytewise
import DeadCode.Encoding.Codec
import DeadCode.Encoding.Detect
import DeadCode.Encoding.Fault
import DeadCode.Encoding.Iso2022
import DeadCode.Encoding.Japanese
import DeadCode.Encoding.Jis0208
import DeadCode.Encoding.Jis0212
import DeadCode.Encoding.JisVendor
import DeadCode.Encoding.Utf8
import DeadCode.Encoding.Wide
import DeadCode.Fix.Imports
import DeadCode.Fix.Outcome
import DeadCode.Fix.Session
import DeadCode.Framework.Basic
import DeadCode.Framework.Bundled
import DeadCode.Framework.ClassNames
import DeadCode.Framework.FileScope
import DeadCode.Framework.Hooks
import DeadCode.Framework.Registry
import DeadCode.Glob
import DeadCode.Glob.Files
import DeadCode.Json.Basic
import DeadCode.Json.Merge
import DeadCode.Json.Reader
import DeadCode.Json.Shown
import DeadCode.Json.Whole
import DeadCode.Json.Writer
import DeadCode.Log
import DeadCode.Main
import DeadCode.Markup.Xml
import DeadCode.Name
import DeadCode.Packages.Declared
import DeadCode.Packages.Load
import DeadCode.Packages.NamespaceMap
import DeadCode.Path
import DeadCode.Php.Classes
import DeadCode.Php.Expressions
import DeadCode.Php.Functions
import DeadCode.Php.Lexer
import DeadCode.Php.Names
import DeadCode.Php.Parser
import DeadCode.Php.Program
import DeadCode.Php.Statements
import DeadCode.Php.Token
import DeadCode.Project.Discover
import DeadCode.Project.Gather
import DeadCode.Project.Run
import DeadCode.Record.Collected
import DeadCode.Record.Field
import DeadCode.Record.Import
import DeadCode.Record.Issue
import DeadCode.Record.Kind
import DeadCode.Record.Reference
import DeadCode.Record.Symbol
import DeadCode.Report.Basic
import DeadCode.Report.Format
import DeadCode.Report.Html
import DeadCode.Report.Lines
import DeadCode.Report.Text
import DeadCode.Report.Xml
import DeadCode.Scope
import DeadCode.Syntax.Names
import DeadCode.Syntax.Tree
import DeadCode.Syntax.Verdict
import DeadCode.Table
import DeadCode.Terminal
import DeadCode.Text.Basic
import DeadCode.Text.Blank
import DeadCode.Text.Case
import DeadCode.Text.CaseTable
import DeadCode.Text.ClassTable
import DeadCode.Text.Classes
import DeadCode.Text.FileName
import DeadCode.Text.Number
import DeadCode.Text.Pattern
import DeadCode.Text.Quoted
import DeadCode.Text.Width
import DeadCode.Text.WidthTable
import DeadCode.Version
import DeadCode.Proofs.Assoc
import DeadCode.Proofs.BottomUp
import DeadCode.Proofs.CacheRuns
import DeadCode.Proofs.Canonical
import DeadCode.Proofs.ClassScopes
import DeadCode.Proofs.Comparison
import DeadCode.Proofs.DiskWrites
import DeadCode.Proofs.Evidence
import DeadCode.Proofs.FileVerdicts
import DeadCode.Proofs.Hierarchy
import DeadCode.Proofs.ImportUse
import DeadCode.Proofs.JsonText
import DeadCode.Proofs.Lines
import DeadCode.Proofs.Manifest
import DeadCode.Proofs.MemberUse
import DeadCode.Proofs.QualifiedNames
import DeadCode.Proofs.Records
import DeadCode.Proofs.Reordering
import DeadCode.Proofs.RuleChoice
import DeadCode.Proofs.Utf8
import DeadCode.Proofs.Verdicts
import DeadCode.Proofs.WarmCache
import DeadCode.Proofs.Clearing
import DeadCode.Proofs.DamagedCache
import DeadCode.Proofs.WrittenRepairs
import DeadCode.Proofs.ClassUses
import DeadCode.Proofs.ClassIdentity
import DeadCode.Proofs.CollectedCode
import DeadCode.Proofs.Places
import DeadCode.Proofs.Inheritance
import DeadCode.Proofs.SectionIsolation
import DeadCode.Proofs.ReferenceChanges
import DeadCode.Proofs.DynamicNames
import DeadCode.Proofs.LetterCase
import DeadCode.Proofs.Suppression
import DeadCode.Proofs.TableRuns
import DeadCode.Proofs.WideText
import DeadCode.Proofs.DetectedText
import DeadCode.Proofs.Takings
import DeadCode.Proofs.BatchOrder
import DeadCode.Proofs.Unrepaired
import DeadCode.Proofs.WrittenLines
import DeadCode.Proofs.RepeatedRepair
import DeadCode.Proofs.WrittenMarks
import DeadCode.Proofs.ChangedEncoding
import DeadCode.Proofs.LongestPrefix
import DeadCode.Proofs.UnusedPackages
import DeadCode.Proofs.OwnObject
import DeadCode.Proofs.ConstantFetches
import DeadCode.Proofs.LetterShapes
import DeadCode.Proofs.SearchPatterns
import DeadCode.Proofs.PatternPieces
import DeadCode.Proofs.DeclaredEncoding
import DeadCode.Proofs.DecodingFailures
import DeadCode.Proofs.FrameworkMarks
import DeadCode.Proofs.Annotations
import DeadCode.Proofs.MemberIgnores
import DeadCode.Proofs.PageReading
import DeadCode.Proofs.PageTags
import DeadCode.Proofs.Merging
import DeadCode.Proofs.Discovery
import DeadCode.Proofs.CsvRecords
import DeadCode.Proofs.ElementReading
import DeadCode.Proofs.Grouping
import DeadCode.Proofs.GroupedReports
import DeadCode.Proofs.Addresses
import DeadCode.Proofs.SyntaxErrors
import DeadCode.Proofs.ScopedWalk
import DeadCode.Proofs.EscapedNames
