import IgnoreRules.Main
import IgnoreRules.Proofs.Glob.Grammar
import IgnoreRules.Proofs.Glob.Language
import IgnoreRules.Proofs.Glob.Reading
import IgnoreRules.Proofs.Glob.Pattern
import IgnoreRules.Proofs.Glob.Set
import IgnoreRules.Proofs.RuleSet.Verdict
import IgnoreRules.Proofs.RuleSet.Text
import IgnoreRules.Proofs.Text.Ends
import IgnoreRules.Proofs.Text.Split
import IgnoreRules.Proofs.Rule.Unescape
import IgnoreRules.Proofs.Rule.Line
import IgnoreRules.Proofs.Rule.NormalForm
import IgnoreRules.Proofs.Rule.Anchored
import IgnoreRules.Proofs.Rule.Literal
import IgnoreRules.Proofs.RuleSet.Exact
import IgnoreRules.Proofs.Rule.Depth
import IgnoreRules.Proofs.Glob.Separator
import IgnoreRules.Proofs.Glob.Components
import IgnoreRules.Proofs.IgnoreFile.Validation
import IgnoreRules.Proofs.Project.Run
import IgnoreRules.Proofs.Project.Spelling
import IgnoreRules.Proofs.Walk.Files
import IgnoreRules.Proofs.Json.LineEndings
import IgnoreRules.Proofs.Json.Nesting
import IgnoreRules.Proofs.Json.Texts
import IgnoreRules.Proofs.FileSystem.Writing
import IgnoreRules.Proofs.FileSystem.Checked
import IgnoreRules.Proofs.FileSystem.Absolute
import IgnoreRules.Proofs.Template.Cache
import IgnoreRules.Proofs.Template.Unusable
import IgnoreRules.Proofs.IgnoreFile.Reading
import IgnoreRules.Proofs.Project.OwnFile
import IgnoreRules.Proofs.Project.Taking
import IgnoreRules.Proofs.Statistics.Totals
import IgnoreRules.Proofs.Walk.Comparison
import IgnoreRules.Proofs.RuleSet.Appending
import IgnoreRules.Proofs.Cli.Reading
import IgnoreRules.Proofs.Cli.SourceOptions
import IgnoreRules.Proofs.Cli.Setup
import IgnoreRules.Proofs.Cli.Governed
import IgnoreRules.Proofs.Cli.Sources
import IgnoreRules.Proofs.Statistics.Languages
import IgnoreRules.Proofs.Template.Run
import IgnoreRules.Proofs.Project.Agreement
import IgnoreRules.Proofs.Rule.Escapes
import IgnoreRules.Proofs.Rule.Projection
import IgnoreRules.Proofs.Glob.Joined
import IgnoreRules.Proofs.Glob.Alternatives
import IgnoreRules.Proofs.Glob.Scope
import IgnoreRules.Proofs.Rule.EveryDepth
import IgnoreRules.Proofs.Rule.Faults
import IgnoreRules.Proofs.Language.LineCount
import IgnoreRules.Proofs.Language.BlockScan
import IgnoreRules.Proofs.Language.Joined
import IgnoreRules.Proofs.IgnoreFile.Inspection
import IgnoreRules.Proofs.IgnoreFile.Accounting
import IgnoreRules.Proofs.RuleSet.Marks
import IgnoreRules.Proofs.Path
import IgnoreRules.Proofs.RuleSet.Candidate
import IgnoreRules.Proofs.Language.Trailing
import IgnoreRules.Proofs.Glob.Places
import IgnoreRules.Proofs.Glob.Runs
import IgnoreRules.Proofs.IgnoreFile.Recursion
import IgnoreRules.Proofs.Detection.Found
import IgnoreRules.Proofs.Detection.Repeated
