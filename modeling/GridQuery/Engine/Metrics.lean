/-!
# Counters

What an engine has done so far. Each counter is a 64-bit word. Models `MetricsRegistry`; what adds
to a counter stands for `increment_requests` and its siblings, and all counters together for
`snapshot`.

* `Metrics.counts`: all counters in a fixed order.
-/

namespace GridQuery

/-- The counters of an engine (`MetricsRegistry`). -/
structure Metrics where
  requests : UInt64 := 0
  requestsFailed : UInt64 := 0
  pipelinesExecuted : UInt64 := 0
  countQueries : UInt64 := 0
  summaryQueries : UInt64 := 0
  summaryQueriesSkipped : UInt64 := 0
  groupsMaterialized : UInt64 := 0
deriving DecidableEq

namespace Metrics

def addRequest (m : Metrics) : Metrics := { m with requests := m.requests + 1 }

def addFailure (m : Metrics) : Metrics := { m with requestsFailed := m.requestsFailed + 1 }

def addPipeline (m : Metrics) : Metrics := { m with pipelinesExecuted := m.pipelinesExecuted + 1 }

def addCountQuery (m : Metrics) : Metrics := { m with countQueries := m.countQueries + 1 }

def addSummaryQuery (m : Metrics) : Metrics := { m with summaryQueries := m.summaryQueries + 1 }

def addSkippedSummary (m : Metrics) : Metrics :=
  { m with summaryQueriesSkipped := m.summaryQueriesSkipped + 1 }

def addGroups (n : UInt64) (m : Metrics) : Metrics :=
  { m with groupsMaterialized := m.groupsMaterialized + n }

def counts (m : Metrics) : List UInt64 :=
  [m.requests, m.requestsFailed, m.pipelinesExecuted, m.countQueries, m.summaryQueries,
    m.summaryQueriesSkipped, m.groupsMaterialized]

end Metrics

end GridQuery
