import GridQuery.Main
import GridQuery.Proofs.DecimalText
import GridQuery.Proofs.Computed
import GridQuery.Proofs.Conditions
import GridQuery.Proofs.FilterMeaning
import GridQuery.Proofs.Filtering
import GridQuery.Proofs.GroupCounts
import GridQuery.Proofs.Collapsing
import GridQuery.Proofs.Succeeding
import GridQuery.Proofs.Questions
import GridQuery.Proofs.Asking
import GridQuery.Proofs.PipelineShapes
import GridQuery.Proofs.Accounting
import GridQuery.Proofs.BadAnswers
import GridQuery.Proofs.FlatRows
import GridQuery.Proofs.AcceptedStages
import GridQuery.Proofs.WellFormedGroups
import GridQuery.Proofs.UnchangedRows
import GridQuery.Proofs.PartGroups
import GridQuery.Proofs.Alike
import GridQuery.Proofs.Logging
import GridQuery.Proofs.Independence
import GridQuery.Proofs.GroupPages
import GridQuery.Proofs.RequestTotals
import GridQuery.Proofs.Meaning
import GridQuery.Proofs.Preorders
import GridQuery.Proofs.Ceiling
import GridQuery.Proofs.GroupTable
import GridQuery.Proofs.GroupPlaces
import GridQuery.Proofs.SharedReduction
import GridQuery.Proofs.NumericBuckets
import GridQuery.Proofs.Chains
import GridQuery.Proofs.IndependentLeaves
import GridQuery.Proofs.Searching
import GridQuery.Proofs.Grammar
import GridQuery.Proofs.RecordedFields
import GridQuery.Proofs.Reordering
import GridQuery.Proofs.OrderedGroups
import GridQuery.Proofs.CalendarParts
import GridQuery.Proofs.Projecting
import GridQuery.Proofs.TextComparisons
import GridQuery.Proofs.Configurations
import GridQuery.Proofs.IntegerOrder
import GridQuery.Proofs.Reencoding
import GridQuery.Proofs.Rewordings
import GridQuery.Proofs.LogLines
import GridQuery.Proofs.WrittenDates
import GridQuery.Proofs.Paths
