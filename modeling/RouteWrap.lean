import RouteWrap.Command.Fault
import RouteWrap.Command.Inspect
import RouteWrap.Command.Instrument
import RouteWrap.Command.Module
import RouteWrap.Command.Run
import RouteWrap.CommandLine.Arguments
import RouteWrap.CommandLine.Reading
import RouteWrap.Config
import RouteWrap.Config.Data
import RouteWrap.Config.Decode
import RouteWrap.Config.Fault
import RouteWrap.Config.Setting
import RouteWrap.Config.Variable
import RouteWrap.Console
import RouteWrap.Files.ByteName
import RouteWrap.Files.Disk
import RouteWrap.Files.Host
import RouteWrap.Files.Path
import RouteWrap.FreshNames
import RouteWrap.Grammar.Basic
import RouteWrap.Grammar.Class
import RouteWrap.Grammar.Declaration
import RouteWrap.Grammar.Expression
import RouteWrap.Grammar.Function
import RouteWrap.Grammar.Jsx
import RouteWrap.Grammar.Link
import RouteWrap.Grammar.Pattern
import RouteWrap.Grammar.Reading
import RouteWrap.Grammar.Statement
import RouteWrap.Grammar.Target
import RouteWrap.Grammar.Type
import RouteWrap.Layout.Element
import RouteWrap.Layout.Expression
import RouteWrap.Layout.Function
import RouteWrap.Layout.Link
import RouteWrap.Layout.Page
import RouteWrap.Layout.Pattern
import RouteWrap.Layout.Place
import RouteWrap.Layout.Printed
import RouteWrap.Layout.Quoted
import RouteWrap.Layout.Statement
import RouteWrap.Layout.Type
import RouteWrap.LogLevel
import RouteWrap.Main
import RouteWrap.Number.Binary64
import RouteWrap.Number.Shortest
import RouteWrap.Number.Signed
import RouteWrap.Preset
import RouteWrap.PrintFormat
import RouteWrap.Proofs.Acceptance
import RouteWrap.Proofs.AlikePresets
import RouteWrap.Proofs.Answers
import RouteWrap.Proofs.Arguments
import RouteWrap.Proofs.BindableNames
import RouteWrap.Proofs.Calls
import RouteWrap.Proofs.CarriedSteps
import RouteWrap.Proofs.ConfigLayers
import RouteWrap.Proofs.Coverage
import RouteWrap.Proofs.Declarations
import RouteWrap.Proofs.DiskRuns
import RouteWrap.Proofs.EvaluationOrder
import RouteWrap.Proofs.ExportFaults
import RouteWrap.Proofs.ExportTable
import RouteWrap.Proofs.FailingRuns
import RouteWrap.Proofs.FaultCauses
import RouteWrap.Proofs.Forward
import RouteWrap.Proofs.ForwardReading
import RouteWrap.Proofs.Frame
import RouteWrap.Proofs.FreshNames
import RouteWrap.Proofs.FreshRuns
import RouteWrap.Proofs.FreshStems
import RouteWrap.Proofs.GlobalArguments
import RouteWrap.Proofs.Growth
import RouteWrap.Proofs.Images
import RouteWrap.Proofs.HostRuns
import RouteWrap.Proofs.ImportReexports
import RouteWrap.Proofs.Initials
import RouteWrap.Proofs.InspectedRuns
import RouteWrap.Proofs.Literals
import RouteWrap.Proofs.ModuleScope
import RouteWrap.Proofs.MovedImports
import RouteWrap.Proofs.Outcomes
import RouteWrap.Proofs.Parts
import RouteWrap.Proofs.Planning
import RouteWrap.Proofs.Positions
import RouteWrap.Proofs.PresetVariants
import RouteWrap.Proofs.PrintedCalls
import RouteWrap.Proofs.ProjectFile
import RouteWrap.Proofs.QuietExpressions
import RouteWrap.Proofs.QuietPhrases
import RouteWrap.Proofs.QuietTrees
import RouteWrap.Proofs.ReadItems
import RouteWrap.Proofs.Readers
import RouteWrap.Proofs.Reexports
import RouteWrap.Proofs.ReportOrder
import RouteWrap.Proofs.Reports
import RouteWrap.Proofs.Rewritten
import RouteWrap.Proofs.RouteIds
import RouteWrap.Proofs.RoutesInPrint
import RouteWrap.Proofs.Scope.Bindings
import RouteWrap.Proofs.Scope.Evaluation
import RouteWrap.Proofs.Scope.Resolution
import RouteWrap.Proofs.SettingLayers
import RouteWrap.Proofs.SourceOrder
import RouteWrap.Proofs.Stacks
import RouteWrap.Proofs.Tally
import RouteWrap.Proofs.TokenPlaces
import RouteWrap.Proofs.Unwrapped
import RouteWrap.Proofs.ValidPresets
import RouteWrap.Proofs.WrapperImports
import RouteWrap.Rewrite.Exports
import RouteWrap.Rewrite.Image
import RouteWrap.Rewrite.Plan
import RouteWrap.Rewrite.Report
import RouteWrap.Scope.Names
import RouteWrap.Scope.Rename
import RouteWrap.Scope.Surface
import RouteWrap.Syntax.Comment
import RouteWrap.Syntax.Cursor
import RouteWrap.Syntax.Dialect
import RouteWrap.Syntax.Exports
import RouteWrap.Syntax.Fault
import RouteWrap.Syntax.Kind
import RouteWrap.Syntax.Module
import RouteWrap.Syntax.Numeral
import RouteWrap.Syntax.Operator
import RouteWrap.Syntax.Scanner
import RouteWrap.Syntax.Token
import RouteWrap.Syntax.Tree
import RouteWrap.Text.AlphabetTable
import RouteWrap.Text.Blank
import RouteWrap.Text.Identifier
import RouteWrap.Text.IdentifierTable
import RouteWrap.Text.Position
import RouteWrap.Text.PrettyJson
import RouteWrap.Text.Uppercase
import RouteWrap.Text.UppercaseTable
import RouteWrap.Text.Visible
import RouteWrap.Toml.Document
import RouteWrap.Toml.Number
import RouteWrap.Toml.Quoted
import RouteWrap.Toml.Reader
import RouteWrap.Toml.Table
import RouteWrap.Toml.Value
import RouteWrap.Transform
