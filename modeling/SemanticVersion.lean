import SemanticVersion.Command.Console
import SemanticVersion.Command.Line
import SemanticVersion.Command.Options
import SemanticVersion.Command.Reading
import SemanticVersion.Command.Report
import SemanticVersion.Command.Run
import SemanticVersion.Command.Session
import SemanticVersion.Config
import SemanticVersion.Decimal
import SemanticVersion.Decimal.Argument
import SemanticVersion.Divergence
import SemanticVersion.Error
import SemanticVersion.Field
import SemanticVersion.Grammar
import SemanticVersion.Grammar.Pattern
import SemanticVersion.Grammar.Scan
import SemanticVersion.History
import SemanticVersion.Identifier
import SemanticVersion.Main
import SemanticVersion.Project.Discovery
import SemanticVersion.Project.FileTree
import SemanticVersion.Project.ManifestText
import SemanticVersion.Project.Path
import SemanticVersion.Proofs.Command.AllOrNothing
import SemanticVersion.Proofs.Command.Bump
import SemanticVersion.Proofs.Config.Invariant
import SemanticVersion.Proofs.Config.LastWriter
import SemanticVersion.Proofs.Config.Reading
import SemanticVersion.Proofs.Config.Shape
import SemanticVersion.Proofs.Decimal.Numeral
import SemanticVersion.Proofs.Divergence.Boundary
import SemanticVersion.Proofs.Divergence.Probes
import SemanticVersion.Proofs.Field.Order
import SemanticVersion.Proofs.Field.Reading
import SemanticVersion.Proofs.Field.Spelling
import SemanticVersion.Proofs.Grammar.Acceptance
import SemanticVersion.Proofs.Grammar.Agreement
import SemanticVersion.Proofs.Grammar.Language
import SemanticVersion.Proofs.Grammar.Lookahead
import SemanticVersion.Proofs.Grammar.Matching
import SemanticVersion.Proofs.Grammar.Steps
import SemanticVersion.Proofs.Grammar.Tokens
import SemanticVersion.Proofs.Grammar.Viability
import SemanticVersion.Proofs.History.Invariant
import SemanticVersion.Proofs.Outcome
import SemanticVersion.Proofs.Project.Discovery
import SemanticVersion.Proofs.Project.Topmost
import SemanticVersion.Proofs.StableSort
import SemanticVersion.Proofs.Value.Display
import SemanticVersion.Proofs.Version.Assembly
import SemanticVersion.Proofs.Version.Blame
import SemanticVersion.Proofs.Version.Greatest
import SemanticVersion.Proofs.Version.Headroom
import SemanticVersion.Proofs.Version.Increments
import SemanticVersion.Proofs.Version.Keys
import SemanticVersion.Proofs.Version.Orderability
import SemanticVersion.Proofs.Version.PrecedenceOrder
import SemanticVersion.Proofs.Version.Precedes
import SemanticVersion.Proofs.Version.Refusal
import SemanticVersion.Proofs.Version.Rejection
import SemanticVersion.Proofs.Version.Repetition
import SemanticVersion.Proofs.Version.Replacement
import SemanticVersion.Proofs.Version.RoundTrip
import SemanticVersion.Proofs.Version.Significance
import SemanticVersion.Proofs.Version.SortOrder
import SemanticVersion.Proofs.Version.Sorting
import SemanticVersion.Proofs.Version.Stepwise
import SemanticVersion.Proofs.Version.StrictOrder
import SemanticVersion.Proofs.Version.Validity
import SemanticVersion.SortKey
import SemanticVersion.Text.Blank
import SemanticVersion.Text.CodePoints
import SemanticVersion.Text.ControlSequence
import SemanticVersion.Text.DecimalDigit
import SemanticVersion.Text.LetterCase
import SemanticVersion.Text.LetterCase.Tables
import SemanticVersion.Text.Printable
import SemanticVersion.Text.Quoted
import SemanticVersion.Value
import SemanticVersion.Value.Order
import SemanticVersion.Version
import SemanticVersion.Version.Build
import SemanticVersion.Version.Change
import SemanticVersion.Version.Parse
import SemanticVersion.Version.Precedence
import SemanticVersion.Version.Sort
import SemanticVersion.Proofs.Command.Documented
import SemanticVersion.Proofs.Command.Reading
