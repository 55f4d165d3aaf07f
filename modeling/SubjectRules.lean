import SubjectRules.Main
import SubjectRules.Proofs.Document.Grammar
import SubjectRules.Proofs.Document.Meaning
import SubjectRules.Proofs.Guard.Deferral
import SubjectRules.Proofs.Transformation.Frame
import SubjectRules.Proofs.Walk.Trace
import SubjectRules.Verbosity
import SubjectRules.Proofs.Reduce.Fold
import SubjectRules.Proofs.Validation.Noninterference
import SubjectRules.Proofs.Validator.Boolean
import SubjectRules.Proofs.CommandLine.Check
import SubjectRules.Proofs.Reduce.Trace
import SubjectRules.Proofs.Validator.Report
import SubjectRules.Proofs.Transformer.Pipe
import SubjectRules.Proofs.Transformation.Idempotent
import SubjectRules.Proofs.Grouping
import SubjectRules.Proofs.Reduce.Agreement
import SubjectRules.Proofs.Transformation.Unruled
import SubjectRules.Proofs.Document.Isolation
import SubjectRules.Proofs.Validator.Relabel
import SubjectRules.Proofs.Reordering
import SubjectRules.Proofs.Validation.Removal
import SubjectRules.Proofs.Failure
import SubjectRules.Proofs.Answer.Pipeline
import SubjectRules.Proofs.Schema.Edits
import SubjectRules.Proofs.CommandLine.Labels
import SubjectRules.Proofs.Transformer.WhiteSpace
import SubjectRules.Proofs.Walk.Written
