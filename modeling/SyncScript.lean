import SyncScript.Command.OnTree
import SyncScript.Main
import SyncScript.Proofs.Script.SyncCommand
import SyncScript.Proofs.Text.Lines
import SyncScript.Proofs.Text.Parts
import SyncScript.Proofs.Shell.HereDoc
import SyncScript.Proofs.Lint.Lines
import SyncScript.Proofs.Script.Layout
import SyncScript.Proofs.Script.FixedLines
import SyncScript.Proofs.Script.TextLines
import SyncScript.Proofs.Lint.Packages
import SyncScript.Proofs.Script.Requirements
import SyncScript.Proofs.Lint.Compiled
import SyncScript.Proofs.Plan.Rules
import SyncScript.Proofs.Script.Acceptance
import SyncScript.Proofs.Files.Parents
import SyncScript.Proofs.Script.Influence
import SyncScript.Proofs.PlanFile.Root
import SyncScript.Proofs.Command.Flags
import SyncScript.Proofs.PlanFile.Resolve
import SyncScript.Proofs.Files.Walk
import SyncScript.Proofs.PlanFile.NearestRoot
import SyncScript.Proofs.Results
import SyncScript.Proofs.Document.Values
import SyncScript.Proofs.Document.FieldTypes
import SyncScript.Proofs.Document.Records
import SyncScript.Proofs.Document.PlanFields
import SyncScript.Proofs.Document.Rearranged
import SyncScript.Proofs.Document.PlanReading
import SyncScript.Proofs.Document.RoundTrip
import SyncScript.Proofs.Document.JsonText
import SyncScript.Proofs.Command.PlanOptions
import SyncScript.Proofs.Command.Runs
import SyncScript.Proofs.Command.Agreement
import SyncScript.Proofs.Files.Writing
import SyncScript.Proofs.Command.Writing
import SyncScript.Proofs.Lint.Assignment
import SyncScript.Proofs.Lint.Trimmed
import SyncScript.Proofs.Lint.Shape
import SyncScript.Proofs.Plan.Packages
import SyncScript.Proofs.PlanFile.Reading
import SyncScript.Proofs.Document.Languages
import SyncScript.Proofs.Document.Equality
import SyncScript.Proofs.PlanFile.Languages
import SyncScript.Proofs.Document.Wanted
import SyncScript.Proofs.Lint.Grammar
import SyncScript.Proofs.Lint.Expansion
import SyncScript.Proofs.Lint.Brackets
import SyncScript.Proofs.Plan.Address
import SyncScript.Proofs.Shell.DelimiterSearch
import SyncScript.Proofs.Plan.Sudo
import SyncScript.Proofs.Script.CommandLine
import SyncScript.Proofs.Text.Quoted
import SyncScript.Proofs.Script.Refusal
import SyncScript.Proofs.Files.Places
import SyncScript.Proofs.Lint.FileReports
import SyncScript.Proofs.Lint.Targets
import SyncScript.Proofs.Command.LintRuns
import SyncScript.Proofs.Command.DistinctFiles
import SyncScript.Proofs.Shell.Functions
import SyncScript.Proofs.Script.VersionOrder
import SyncScript.Proofs.Shell.EscapedText
