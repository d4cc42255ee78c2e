import Pirsch.Time
import Pirsch.Filter.Basic
import Pirsch.Filter.RemoveDuplicates
import Pirsch.Filter.Validate
import Pirsch.Filter.ImportedSplit
import Pirsch.Filter.Validated
import Pirsch.Filter.Idempotence
import Pirsch.Filter.Equal
import Pirsch.Filter.EqualLaws
import Pirsch.Filter.BuildQuery
import Pirsch.Filter.QueryTree
import Pirsch.Filter.QueryColumns
import Pirsch.Analyzer.GetFilter
import Pirsch.Analyzer.PreviousPeriod
import Pirsch.Analyzer.Queries
import Pirsch.Analyzer.Growth
import Pirsch.Proto.Column
