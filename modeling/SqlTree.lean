import SqlTree.Main
import SqlTree.Proofs.ArrayReader
import SqlTree.Proofs.BindOrder
import SqlTree.Proofs.Children
import SqlTree.Proofs.Gathering
import SqlTree.Proofs.LexicalIntegrity
import SqlTree.Proofs.NearestDouble
import SqlTree.Proofs.DecimalNumerals
import SqlTree.Proofs.ShortestDigits
import SqlTree.Proofs.Pieces
import SqlTree.Proofs.Rules
import SqlTree.Proofs.Rendering
import SqlTree.Proofs.Visits
import SqlTree.Proofs.Collecting
import SqlTree.Proofs.Scan
import SqlTree.Proofs.Substitution
import SqlTree.Proofs.ArrayCasting
import SqlTree.Proofs.Candidates
import SqlTree.Proofs.TypedArray
import SqlTree.Proofs.Membership
import SqlTree.Proofs.Congruence
import SqlTree.Proofs.Preparable
import SqlTree.Proofs.CommonLanguage
import SqlTree.Proofs.Faults
import SqlTree.Proofs.Resolution
import SqlTree.Proofs.JsonTokens
import SqlTree.Proofs.JsonText
import SqlTree.Proofs.Presentation
import SqlTree.Proofs.CollectorRuns
import SqlTree.Proofs.ArrayShape
import SqlTree.Proofs.ExplicitLists
import SqlTree.Proofs.ConditionReader
import SqlTree.Proofs.BooleanStructure
import SqlTree.Proofs.SignedNumerals
import SqlTree.Proofs.CalendarText
import SqlTree.Proofs.DoubleValue
import SqlTree.Proofs.IntegerCasting
import SqlTree.Proofs.CandidateFilter
import SqlTree.Proofs.IntegerWords
import SqlTree.Proofs.Received
import SqlTree.Proofs.OutOfRange
import SqlTree.Proofs.PlainText
import SqlTree.Proofs.Recasting
import SqlTree.Proofs.Lowercase
import SqlTree.Proofs.TypeLookup
import SqlTree.Proofs.JsonPrinting
import SqlTree.Proofs.JsonColumns
import SqlTree.Proofs.SignedZeros
import SqlTree.Proofs.EqualTrees
import SqlTree.Proofs.EqualStatements
import SqlTree.Proofs.Literals
import SqlTree.Proofs.NullTests
import SqlTree.Proofs.JsonConversions
