import RowPlan.Main
import RowPlan.Preview.Basic
import RowPlan.Session
import RowPlan.Proofs.Expr.Comparison
import RowPlan.Proofs.Expr.Confinement
import RowPlan.Proofs.Expr.Finiteness
import RowPlan.Proofs.Expr.Quotation
import RowPlan.Proofs.Expr.Recognition
import RowPlan.Proofs.Condition.Filtering
import RowPlan.Proofs.Condition.References
import RowPlan.Proofs.Condition.Translation
import RowPlan.Proofs.Discovery.Ranking
import RowPlan.Proofs.Discovery.RecordPaths
import RowPlan.Proofs.Execution.Composition
import RowPlan.Proofs.Execution.Fallback
import RowPlan.Proofs.Execution.Mapping
import RowPlan.Proofs.Execution.PendingGroups
import RowPlan.Proofs.Execution.Projection
import RowPlan.Proofs.Execution.SortedRows
import RowPlan.Proofs.Execution.Totals
import RowPlan.Proofs.Execution.Warnings
import RowPlan.Proofs.Field.Resolution
import RowPlan.Proofs.Json.Documents
import RowPlan.Proofs.Output.CsvReading
import RowPlan.Proofs.Output.Export
import RowPlan.Proofs.Output.Schema
import RowPlan.Proofs.Plan.FixedPoint
import RowPlan.Proofs.Plan.Malformed
import RowPlan.Proofs.Pointer.Locations
import RowPlan.Proofs.Preview.FixedSource
import RowPlan.Proofs.Preview.Regenerated
import RowPlan.Proofs.Proposal.Fencing
import RowPlan.Proofs.Proposal.GivenPath
import RowPlan.Proofs.Proposal.Spelling
import RowPlan.Proofs.Settings
import RowPlan.Proofs.Template.Columns
import RowPlan.Proofs.Value.Sameness
