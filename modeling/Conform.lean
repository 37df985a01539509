import Conform.Main
import Conform.Pattern.Cache
import Conform.Registry
import Conform.Proofs.Path.Decimal
import Conform.Proofs.Path.Grammar
import Conform.Proofs.Path.Scanner
import Conform.Proofs.Path.RoundTrip
import Conform.Proofs.Schema.Contents
import Conform.Proofs.Schema.Defects
import Conform.Proofs.Schema.Decision
import Conform.Proofs.Stopping
import Conform.Proofs.Outcome
import Conform.Proofs.Registry
import Conform.Proofs.Extension.Walk
import Conform.Proofs.Extension.Defects
import Conform.Proofs.Extension.Result
import Conform.Proofs.Extension.Fixpoint
import Conform.Proofs.Extension.EnumFree
import Conform.Proofs.Extension.Reading
import Conform.Proofs.Check.Rules
import Conform.Proofs.Check.Issues
import Conform.Proofs.Check.Conformance
import Conform.Proofs.Check.Passing
import Conform.Proofs.Check.SchemaIssues
import Conform.Proofs.Check.Acceptance
import Conform.Proofs.Check.Parts
import Conform.Proofs.Check.Places
import Conform.Proofs.Check.Trials
import Conform.Proofs.Check.Visits
import Conform.Proofs.Check.Listing
import Conform.Proofs.Runs
import Conform.Proofs.Check.Comparison
import Conform.Proofs.Check.Leniency
import Conform.Proofs.Check.Coverage
import Conform.Proofs.Check.Reordering
import Conform.Proofs.Issue.Report
import Conform.Proofs.Issue.Overlay
import Conform.Proofs.Command.Verdict
import Conform.Proofs.Pattern.Eviction
import Conform.Proofs.Schema.Keywords
import Conform.Proofs.Schema.LongForm
import Conform.Proofs.Schema.Respelling
import Conform.Proofs.Check.Spelling
import Conform.Proofs.Schema.Distinct
import Conform.Proofs.Extension.Frame
import Conform.Proofs.Schema.Revision
import Conform.Proofs.Extension.Revision
import Conform.Proofs.Check.Revision
import Conform.Proofs.Check.Pruned
import Conform.Proofs.Number.Nearest
import Conform.Proofs.Check.Range
import Conform.Proofs.Condition.Operators
import Conform.Proofs.Check.SizeBounds
import Conform.Proofs.Check.Relocation
import Conform.Proofs.Issue.Rendering
import Conform.Proofs.Path.Failure
import Conform.Proofs.Path.Lookup
import Conform.Proofs.Json.Equality
import Conform.Proofs.Schema.Tables
import Conform.Proofs.Extension.Assembly
import Conform.Proofs.Table.Merge
import Conform.Proofs.Condition.Chain
import Conform.Proofs.Issue.Edits
import Conform.Proofs.Extension.Visited
import Conform.Proofs.TypeTag
import Conform.Proofs.Extension.Descent
import Conform.Proofs.Extension.Comparison
import Conform.Proofs.Check.Wording
