import MergeGate.Main
import MergeGate.Report.Export
import MergeGate.Proofs.Denylist.Matches
import MergeGate.Proofs.Range.Admission
import MergeGate.Proofs.Range.Grammar
import MergeGate.Proofs.Evaluation.Totality
import MergeGate.Proofs.Evaluation.Blocks
import MergeGate.Proofs.Evaluation.Severities
import MergeGate.Proofs.Evaluation.Tightening
import MergeGate.Proofs.Range.Acceptance
import MergeGate.Proofs.Discussion.Upkeep
import MergeGate.Proofs.Discussion.Interleaving
import MergeGate.Proofs.Check.Showing
import MergeGate.Proofs.Policy.NormalForm
import MergeGate.Proofs.Policy.Escapes
import MergeGate.Proofs.Range.Conversions
import MergeGate.Proofs.Range.Intervals
import MergeGate.Proofs.Denylist.Written
import MergeGate.Proofs.Range.Printing
import MergeGate.Proofs.Version.Coercion
import MergeGate.Proofs.Evaluation.ManifestOrder
import MergeGate.Proofs.Report.Canonical
import MergeGate.Proofs.Discussion.Success
import MergeGate.Proofs.Report.Accounting
import MergeGate.Proofs.Report.Columns
