import Sift.Evaluation
import Sift.Schema
import Sift.Specification.Json
import Sift.Proofs.Pipeline
import Sift.Proofs.ChainGrammar
import Sift.Proofs.FieldNames
import Sift.Proofs.Pages
import Sift.Proofs.Intents
import Sift.Proofs.DecimalDigits
import Sift.Proofs.ShortestDecimal
import Sift.Proofs.JsonText
import Sift.Proofs.StoredRecords
import Sift.Proofs.RoundTrip
import Sift.Proofs.ChainComposition
import Sift.Proofs.InputOrder
import Sift.Proofs.ScannedValues
import Sift.Proofs.CanonicalText
import Sift.Proofs.ExactValue
import Sift.Proofs.Sorting
import Sift.Proofs.FieldsRead
import Sift.Proofs.SourceCalls
import Sift.Proofs.NullPlacement
import Sift.Proofs.Substitution
import Sift.Proofs.ComparisonClauses
import Sift.Proofs.StageOrder
import Sift.Proofs.Checkpoints
import Sift.Proofs.CheckedParts
import Sift.Proofs.PathTexts
import Sift.Proofs.SourceItems
import Sift.Proofs.ConstantNames
import Sift.Proofs.Equality
import Sift.Proofs.OperandTexts
import Sift.Proofs.SortRuns
import Sift.Proofs.UniqueReading
import Sift.Proofs.SchemaOutcome
