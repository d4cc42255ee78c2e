import Pirsch.Filter.Basic

/-!
# `Filter.buildQuery`

`buildQuery` (lines 670–723 of `filter.go`) picks the table of the outer query
(`table`, lines 730–769) and attaches up to four sub-queries to it, each a
`queryBuilder` over a copy of the filter: a sessions or page-views join
(`join`), an inner join of events (`joinSecond`), a left join of events
(`leftJoin`) and the per-period visitor counts of the conversion rate
(`joinThird`).  The model stops at the builder tree: `q.query()`, which renders
it as SQL, lives in `query_builder.go`, which is not part of the sources here.

## Modelling choices

* `Table` and `QueryBuilder` are modelled from their uses in `filter.go`: the
  three tables named there, and the fields of `queryBuilder` it writes.  The
  `parent` pointer, which only `query()` reads, is left out.
* A builder's `filter` is a value: the root's is the caller's filter, each
  child's a copy, as in the source.
* A run of `append`s guarded by conditions is a concatenation of the guarded
  parts, in the order of the source.
-/

namespace Pirsch

/-- The tables the queries read. -/
inductive Table where
  | sessions | pageViews | events
deriving DecidableEq, Repr

/-- `queryBuilder`, with the fields `filter.go` writes. -/
structure QueryBuilder where
  filter : Filter
  fieldsImported : List Field
  «from» : Table
  fromImported : String
  joinStep : Int
  search : List Search
  groupBy : List Field
  orderBy : List Field
  offset : Int
  limit : Int
  sample : Nat
  final : Bool
  fields : List Field
  includeEventFilter : Bool
  join : Option QueryBuilder
  joinSecond : Option QueryBuilder
  leftJoin : Option QueryBuilder
  joinThird : Option QueryBuilder

namespace QueryBuilder

/-- `queryBuilder{filter: filter, from: from}`: every other field at its zero value. -/
def empty (filter : Filter) («from» : Table) : QueryBuilder where
  filter := filter
  fieldsImported := []
  «from» := «from»
  fromImported := ""
  joinStep := 0
  search := []
  groupBy := []
  orderBy := []
  offset := 0
  limit := 0
  sample := 0
  final := false
  fields := []
  includeEventFilter := false
  join := none
  joinSecond := none
  leftJoin := none
  joinThird := none

/-- The sub-queries attached to a builder. -/
def children (q : QueryBuilder) : List QueryBuilder :=
  q.join.toList ++ q.joinSecond.toList ++ q.leftJoin.toList ++ q.joinThird.toList

end QueryBuilder

namespace Filter

/-- A copy of the filter with some list-valued fields set to `nil`. -/
def clearDims (f : Filter) (ds : List Dimension) : Filter :=
  { f with dims := fun d => if d ∈ ds then [] else f.dims d }

/-- `filter.table(fields)`. -/
def table (f : Filter) (fields : List Field) : Table :=
  let tagKeyFilter := fieldsContain fields .tagKey
  let tagValueFilter := fieldsContain fields .tagValue
  let allSessionFilter := fieldsContain fields .sessionsAll
  if (f.dims .path ≠ [] ∨ f.dims .pathPattern ≠ [] ∨ f.tags.len ≠ 0 ∨ f.dims .tag ≠ [] ∨
      fieldsContain fields .pageViewsAll ∨ fieldsContain fields .path ∨
      fieldsContain fields .entries ∨ fieldsContain fields .exits ∨ fieldsContain fields .hour ∨
      fieldsContain fields .minute ∨ fieldsContain fields .tagKeysRaw ∨
      fieldsContain fields .tagValuesRaw ∨ tagKeyFilter ∨ tagValueFilter ∨ f.searchContains .path) ∧
    (f.customMetricType = "" ∨ f.customMetricKey = "" ∨ tagKeyFilter ∨ tagValueFilter) ∧
    ¬allSessionFilter then .pageViews
  else if fieldsContain fields .entryPath ∨ fieldsContain fields .exitPath then .sessions
  else if (f.dims .eventName ≠ [] ∨ fieldsContain fields .eventName ∨
      fieldsContain fields .eventsAll ∨ f.customMetricType ≠ "" ∧ f.customMetricKey ≠ "") ∧
    ¬allSessionFilter then .events
  else .sessions

/-- `filter.joinSessions(table, fields)`. -/
def joinSessions (f : Filter) (table : Table) (fields : List Field) : Option QueryBuilder :=
  if f.dims .entryPath ≠ [] ∨ f.dims .exitPath ≠ [] ∨ fieldsContain fields .bounces ∨
      (table = .events ∧ fieldsContain fields .views) ∨ fieldsContain fields .entryPath ∨
      fieldsContain fields .exitPath then
    let entry : List Field :=
      if f.dims .entryPath ≠ [] ∨ fieldsContain fields .entryPath ∨ f.searchContains .entryPath then
        .entryPath :: if f.includeTitle then [.entryTitle] else []
      else []
    let exit : List Field :=
      if f.dims .exitPath ≠ [] ∨ fieldsContain fields .exitPath ∨ f.searchContains .exitPath then
        .exitPath :: if f.includeTitle then [.exitTitle] else []
      else []
    let sessionFields := [.visitorID, .sessionID] ++ entry ++ exit ++
      (if fieldsContain fields .bounces then [.bounces] else []) ++
      (if fieldsContain fields .views then [.views] else [])
    some { QueryBuilder.empty { f with sort := [] } .sessions with
      fields := sessionFields
      groupBy := [.visitorID, .sessionID] ++ entry ++ exit
      sample := f.sample
      final := decide (fieldsContain fields .sessionsAll) }
  else none

/-- `filter.joinPageViews(fields)`. -/
def joinPageViews (f : Filter) (fields : List Field) : Option QueryBuilder :=
  if f.dims .path ≠ [] ∨ f.dims .pathPattern ≠ [] ∨ f.dims .tag ≠ [] ∨ f.tags.len ≠ 0 ∨
      f.searchContains .path ∨ fieldsContain fields .tagKey ∨ fieldsContain fields .tagValue ∨
      fieldsContain fields .tagKeysRaw ∨ fieldsContain fields .tagValuesRaw then
    let pageViewFields : List Field := [.visitorID, .sessionID] ++
      (if f.dims .pathPattern ≠ [] ∨ f.dims .path ≠ [] ∨ fieldsContain fields .path ∨
          f.searchContains .path then [.path] else []) ++
      (if fieldsContain fields .tagKey ∨ fieldsContain fields .tagKeysRaw then [.tagKeysRaw] else []) ++
      (if fieldsContain fields .tagValue ∨ fieldsContain fields .tagValuesRaw then [.tagValuesRaw]
        else [])
    some { QueryBuilder.empty { f with sort := [] } .pageViews with
      fields := pageViewFields
      groupBy := pageViewFields
      sample := f.sample }
  else none

/-- `filter.joinEvents(fields)`. -/
def joinEvents (f : Filter) (fields : List Field) : Option QueryBuilder :=
  if f.dims .eventName ≠ [] ∨ fieldsContain fields .eventName then
    let eventFields : List Field := [.visitorID, .sessionID] ++
      (if fieldsContain fields .hour then [.hour] else []) ++
      (if fieldsContain fields .minute then [.minute] else []) ++
      (if fieldsContain fields .eventName then [.eventName] else []) ++
      (if fieldsContain fields .eventPath then [.eventPath] else []) ++
      (if fieldsContain fields .eventTitle then [.eventTitle] else []) ++
      (if f.customMetricType ≠ "" ∧ f.customMetricKey ≠ "" then [.eventMetaKeysRaw, .eventMetaValuesRaw]
      else
        (if fieldsContain fields .eventMetaKeysRaw ∨ fieldsContain fields .eventMetaKeys ∨
            fieldsContain fields .eventMeta ∨ fieldsContain fields .eventMetaValues
          then [.eventMetaKeysRaw] else []) ++
        (if fieldsContain fields .eventMetaValuesRaw ∨ fieldsContain fields .eventMetaValues ∨
            fieldsContain fields .eventMeta then [.eventMetaValuesRaw] else []))
    some { QueryBuilder.empty { f.clearDims [.path, .anyPath] with sort := [] } .events with
      fields := eventFields
      groupBy := eventFields
      sample := f.sample }
  else none

/-- `filter.leftJoinEvents(fields)`. -/
def leftJoinEvents (f : Filter) (fields : List Field) : QueryBuilder :=
  let eventFields : List Field := [.visitorID, .sessionID, .eventName] ++
    (if f.eventMeta.len ≠ 0 ∨ fieldsContain fields .eventMeta ∨ fieldsContain fields .eventMetaValues
      then [.eventMetaKeysRaw, .eventMetaValuesRaw]
    else if f.dims .eventMetaKey ≠ [] ∨ fieldsContain fields .eventMetaKeys then [.eventMetaKeysRaw]
    else []) ++
    (if fieldsContain fields .eventPath then [.eventPath] else []) ++
    (if fieldsContain fields .eventTitle then [.eventTitle] else [])
  { QueryBuilder.empty { f.clearDims [.eventName, .eventMetaKey] with eventMeta := .empty, sort := [] }
      .events with
    fields := eventFields
    groupBy := eventFields
    sample := f.sample }

/-- `filter.joinOrLeftJoinEvents(q, fields)`, which writes to `q`. -/
def joinOrLeftJoinEvents (f : Filter) (q : QueryBuilder) (fields : List Field) : QueryBuilder :=
  if valuesContainPrefix (f.dims .eventName) "!" then
    { q with includeEventFilter := true, leftJoin := some (f.leftJoinEvents fields) }
  else { q with joinSecond := f.joinEvents fields }

/-- The filter of the conversion-rate sub-query: only the time range, the client
and the options that shape the periods. -/
def crFilter (f : Filter) : Filter :=
  { clientID := f.clientID, timezone := f.timezone, «from» := f.from, «to» := f.to,
    period := f.period, includeTime := f.includeTime, weekdayMode := f.weekdayMode }

/-- `filter.joinUniqueVisitorsByPeriod(fields)`. -/
def joinUniqueVisitorsByPeriod (f : Filter) (fields : List Field) : Option QueryBuilder :=
  if fieldsContain fields .crPeriod then
    let groupBy : Field :=
      if fieldsContain fields .day then .day else if fieldsContain fields .minute then .minute else .hour
    some { QueryBuilder.empty f.crFilter .sessions with
      fields := [groupBy, .visitorsRaw]
      orderBy := [groupBy]
      groupBy := [groupBy]
      sample := f.sample }
  else none

/-- The condition of line 687: the outer query reads events. -/
def EventsRoot (f : Filter) (fields : List Field) : Prop :=
  (fieldsContain fields .eventName ∨ f.customMetricKey ≠ "" ∨ f.customMetricType ≠ "" ∨
    fieldsContain fields .eventsAll) ∧ ¬fieldsContain fields .tagKey ∧ ¬fieldsContain fields .tagValue

instance (f : Filter) (fields : List Field) : Decidable (f.EventsRoot fields) :=
  inferInstanceAs (Decidable ((_ ∨ _ ∨ _ ∨ _) ∧ _ ∧ _))

/-- The builder of lines 671–684, before any sub-query is attached. -/
def rootBuilder (f : Filter) (fields groupBy orderBy fieldsImported : List Field)
    (fromImported : String) : QueryBuilder :=
  { QueryBuilder.empty f (f.table fields) with
    fieldsImported := fieldsImported
    fromImported := fromImported
    joinStep := f.funnelStep
    search := f.search
    groupBy := groupBy
    orderBy := orderBy
    offset := f.offset
    limit := f.limit
    sample := f.sample
    final := decide (fieldsContain fields .sessionsAll) }

/-- `filter.buildQuery(fields, groupBy, orderBy, fieldsImported, fromImported)`, up to
the call of `q.query()`. -/
def buildQuery (f : Filter) (fields groupBy orderBy fieldsImported : List Field)
    (fromImported : String) : QueryBuilder :=
  let q := f.rootBuilder fields groupBy orderBy fieldsImported fromImported
  let q :=
    if f.EventsRoot fields then
      { q with «from» := .events, fields := fields, includeEventFilter := true,
               join := f.joinSessions .events fields }
    else if q.from = .events then
      { q with «from» := .sessions, fields := excludeFields fields [.path], includeEventFilter := true,
               leftJoin := some (f.leftJoinEvents fields) }
    else if q.from = .pageViews then
      let q := { q with fields := fields }
      let q := if q.from ≠ .sessions then { q with join := f.joinSessions q.from fields } else q
      if q.from ≠ .events then f.joinOrLeftJoinEvents q fields else q
    else
      f.joinOrLeftJoinEvents { q with fields := fields, join := f.joinPageViews fields } fields
  { q with joinThird := f.joinUniqueVisitorsByPeriod fields }

end Filter

end Pirsch

namespace Pirsch.Filter

/-! ## What each sub-query is

One lemma per constructor: the table it reads, that it carries no event filter
flag and no sub-queries of its own, and the copy of the filter it works on. -/

section Children

variable {f : Filter} {fields : List Field} {t : Table} {c : QueryBuilder}

/-- A sub-query built under a condition is the one built. -/
theorem eq_of_mem_toList_ite {p : Prop} [Decidable p] {b : QueryBuilder}
    (h : c ∈ (if p then some b else none).toList) : c = b := by
  split at h
  · exact List.mem_singleton.mp h
  · cases h

theorem joinSessions_spec (h : c ∈ (f.joinSessions t fields).toList) :
    c.from = .sessions ∧ c.includeEventFilter = false ∧ c.filter = { f with sort := [] } ∧
      c.children = [] := by
  obtain rfl := eq_of_mem_toList_ite h; exact ⟨rfl, rfl, rfl, rfl⟩

theorem joinPageViews_spec (h : c ∈ (f.joinPageViews fields).toList) :
    c.from = .pageViews ∧ c.includeEventFilter = false ∧ c.filter = { f with sort := [] } ∧
      c.children = [] := by
  obtain rfl := eq_of_mem_toList_ite h; exact ⟨rfl, rfl, rfl, rfl⟩

theorem joinEvents_spec (h : c ∈ (f.joinEvents fields).toList) :
    c.from = .events ∧ c.includeEventFilter = false ∧
      c.filter = { f.clearDims [.path, .anyPath] with sort := [] } ∧ c.children = [] := by
  obtain rfl := eq_of_mem_toList_ite h; exact ⟨rfl, rfl, rfl, rfl⟩

/-- An inner join of events is attached whenever the filter names events. -/
theorem joinEvents_ne_nil (h : f.dims .eventName ≠ []) : (f.joinEvents fields).toList ≠ [] := by
  unfold joinEvents
  rw [if_pos (.inl h)]
  exact List.cons_ne_nil _ _

theorem leftJoinEvents_spec :
    (f.leftJoinEvents fields).from = .events ∧ (f.leftJoinEvents fields).includeEventFilter = false ∧
      (f.leftJoinEvents fields).filter =
        { f.clearDims [.eventName, .eventMetaKey] with eventMeta := .empty, sort := [] } ∧
      (f.leftJoinEvents fields).children = [] :=
  ⟨rfl, rfl, rfl, rfl⟩

theorem joinUniqueVisitorsByPeriod_spec (h : c ∈ (f.joinUniqueVisitorsByPeriod fields).toList) :
    c.from = .sessions ∧ c.includeEventFilter = false ∧ c.filter = f.crFilter ∧ c.children = [] := by
  obtain rfl := eq_of_mem_toList_ite h; exact ⟨rfl, rfl, rfl, rfl⟩

end Children

/-! ## The shape of the tree

Which sub-queries `buildQuery` attaches, on each of its four branches. -/

section Shape

variable {f : Filter} {fields groupBy orderBy fieldsImported : List Field} {fromImported : String}

/-- `joinOrLeftJoinEvents` on a builder that has no events join yet: a left join of
events when some `EventName` is negated, an inner join otherwise. -/
theorem joinOrLeftJoinEvents_eq (q : QueryBuilder) :
    f.joinOrLeftJoinEvents q fields =
      if valuesContainPrefix (f.dims .eventName) "!" then
        { q with includeEventFilter := true, leftJoin := some (f.leftJoinEvents fields) }
      else { q with joinSecond := f.joinEvents fields } := rfl

/-- `joinOrLeftJoinEvents` writes only the event flag and the two events joins. -/
theorem joinOrLeftJoinEvents_frame (q : QueryBuilder) :
    f.joinOrLeftJoinEvents q fields = { q with
      includeEventFilter := (f.joinOrLeftJoinEvents q fields).includeEventFilter,
      joinSecond := (f.joinOrLeftJoinEvents q fields).joinSecond,
      leftJoin := (f.joinOrLeftJoinEvents q fields).leftJoin } := by
  unfold joinOrLeftJoinEvents; split <;> rfl

@[simp] theorem rootBuilder_filter : (f.rootBuilder fields groupBy orderBy fieldsImported fromImported).filter = f :=
  rfl
@[simp] theorem rootBuilder_from :
    (f.rootBuilder fields groupBy orderBy fieldsImported fromImported).from = f.table fields := rfl
@[simp] theorem rootBuilder_includeEventFilter :
    (f.rootBuilder fields groupBy orderBy fieldsImported fromImported).includeEventFilter = false := rfl
@[simp] theorem rootBuilder_join : (f.rootBuilder fields groupBy orderBy fieldsImported fromImported).join = none :=
  rfl
@[simp] theorem rootBuilder_joinSecond :
    (f.rootBuilder fields groupBy orderBy fieldsImported fromImported).joinSecond = none := rfl
@[simp] theorem rootBuilder_leftJoin :
    (f.rootBuilder fields groupBy orderBy fieldsImported fromImported).leftJoin = none := rfl

/-- Lines 687–693: the outer query reads events and joins sessions. -/
theorem buildQuery_of_eventsRoot (h : f.EventsRoot fields) :
    f.buildQuery fields groupBy orderBy fieldsImported fromImported =
      { f.rootBuilder fields groupBy orderBy fieldsImported fromImported with
        «from» := .events, fields := fields, includeEventFilter := true,
        join := f.joinSessions .events fields, joinThird := f.joinUniqueVisitorsByPeriod fields } := by
  simp only [buildQuery, if_pos h]

/-- Lines 694–698: `table` chose events, but the outer query reads sessions and
left joins events. -/
theorem buildQuery_of_events (h : ¬f.EventsRoot fields) (ht : f.table fields = .events) :
    f.buildQuery fields groupBy orderBy fieldsImported fromImported =
      { f.rootBuilder fields groupBy orderBy fieldsImported fromImported with
        «from» := .sessions, fields := excludeFields fields [.path], includeEventFilter := true,
        leftJoin := some (f.leftJoinEvents fields),
        joinThird := f.joinUniqueVisitorsByPeriod fields } := by
  simp only [buildQuery, if_neg h, rootBuilder, QueryBuilder.empty, ht, if_true]

/-- Lines 699–713: the outer query reads page views, joins sessions and joins events. -/
theorem buildQuery_of_pageViews (h : ¬f.EventsRoot fields) (ht : f.table fields = .pageViews) :
    f.buildQuery fields groupBy orderBy fieldsImported fromImported =
      { f.joinOrLeftJoinEvents { f.rootBuilder fields groupBy orderBy fieldsImported fromImported with
          fields := fields, join := f.joinSessions .pageViews fields } fields with
        joinThird := f.joinUniqueVisitorsByPeriod fields } := by
  simp only [buildQuery, if_neg h, rootBuilder, QueryBuilder.empty, ht, if_true, reduceCtorEq,
    if_false, ne_eq, not_false_eq_true]

/-- Lines 714–718: the outer query reads sessions, joins page views and joins events. -/
theorem buildQuery_of_sessions (h : ¬f.EventsRoot fields) (ht : f.table fields = .sessions) :
    f.buildQuery fields groupBy orderBy fieldsImported fromImported =
      { f.joinOrLeftJoinEvents { f.rootBuilder fields groupBy orderBy fieldsImported fromImported with
          fields := fields, join := f.joinPageViews fields } fields with
        joinThird := f.joinUniqueVisitorsByPeriod fields } := by
  simp only [buildQuery, if_neg h, rootBuilder, QueryBuilder.empty, ht, reduceCtorEq, if_false]

/-- The table the outer query reads: events on the branch of line 687, sessions
where `table` chose events but the outer query was moved to sessions, and the
table `table` chose otherwise. -/
theorem buildQuery_from : (f.buildQuery fields groupBy orderBy fieldsImported fromImported).from =
    if f.EventsRoot fields then .events else if f.table fields = .events then .sessions
    else f.table fields := by
  by_cases hr : f.EventsRoot fields
  · rw [buildQuery_of_eventsRoot hr, if_pos hr]
  rw [if_neg hr]
  cases ht : f.table fields
  · rw [buildQuery_of_sessions hr ht, joinOrLeftJoinEvents_frame]; exact ht
  · rw [buildQuery_of_pageViews hr ht, joinOrLeftJoinEvents_frame]; exact ht
  · rw [buildQuery_of_events hr ht]; rfl

/-- The outer query works on the caller's filter. -/
theorem buildQuery_filter : (f.buildQuery fields groupBy orderBy fieldsImported fromImported).filter = f := by
  by_cases hr : f.EventsRoot fields
  · rw [buildQuery_of_eventsRoot hr]; rfl
  cases ht : f.table fields
  · rw [buildQuery_of_sessions hr ht, joinOrLeftJoinEvents_frame]; rfl
  · rw [buildQuery_of_pageViews hr ht, joinOrLeftJoinEvents_frame]; rfl
  · rw [buildQuery_of_events hr ht]; rfl

/-- The grouping and the search of the outer query are the caller's. -/
theorem buildQuery_groupBy_search :
    (f.buildQuery fields groupBy orderBy fieldsImported fromImported).groupBy = groupBy ∧
      (f.buildQuery fields groupBy orderBy fieldsImported fromImported).search = f.search := by
  by_cases hr : f.EventsRoot fields
  · rw [buildQuery_of_eventsRoot hr]; exact ⟨rfl, rfl⟩
  cases ht : f.table fields
  · rw [buildQuery_of_sessions hr ht, joinOrLeftJoinEvents_frame]; exact ⟨rfl, rfl⟩
  · rw [buildQuery_of_pageViews hr ht, joinOrLeftJoinEvents_frame]; exact ⟨rfl, rfl⟩
  · rw [buildQuery_of_events hr ht]; exact ⟨rfl, rfl⟩

/-- The imported fields are stored in the outer query and read nowhere else. -/
theorem buildQuery_fieldsImported (fi : List Field) :
    f.buildQuery fields groupBy orderBy fieldsImported fromImported =
      { f.buildQuery fields groupBy orderBy fi fromImported with fieldsImported := fieldsImported } := by
  by_cases hr : f.EventsRoot fields
  · rw [buildQuery_of_eventsRoot hr, buildQuery_of_eventsRoot hr]; rfl
  cases ht : f.table fields
  · rw [buildQuery_of_sessions hr ht, buildQuery_of_sessions hr ht, joinOrLeftJoinEvents_eq,
      joinOrLeftJoinEvents_eq]
    split_ifs <;> rfl
  · rw [buildQuery_of_pageViews hr ht, buildQuery_of_pageViews hr ht, joinOrLeftJoinEvents_eq,
      joinOrLeftJoinEvents_eq]
    split_ifs <;> rfl
  · rw [buildQuery_of_events hr ht, buildQuery_of_events hr ht]; rfl

/-- Every branch ends by attaching the conversion-rate sub-query (line 721). -/
theorem buildQuery_joinThird :
    (f.buildQuery fields groupBy orderBy fieldsImported fromImported).joinThird =
      f.joinUniqueVisitorsByPeriod fields := rfl

end Shape

end Pirsch.Filter
