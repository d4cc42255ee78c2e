import Pirsch.Analyzer.GetFilter
import Pirsch.Filter.BuildQuery

/-!
# The queries of the analysis methods

Each statistics method of `visitors.go` and `events.go` validates the caller's
filter with `getFilter`, picks its field lists and hands them to `buildQuery`;
what it then reads from the store is not modelled.  The definitions here are
those field lists and calls, each method giving back the builder trees it
queries, so that what `buildQuery` does with them can be read off per method.

* The time-bucketed views (`ByPeriod`, `ByHour`, `ByMinute`) join the
  conversion-rate sub-query exactly when `IncludeCR` is set, and it buckets by
  the view's own column (`bucketQuery_cr_join`).
* `TotalVisitors`, `TotalPageViews` and `TotalSessions` copy a few fields of the
  caller's filter into a fresh one: whatever the caller filters on, the query
  is one scan of the sessions table with no predicate, no search and no
  sub-query; only `TotalVisitors` copies `IncludeTime`.
* `Events` and `Breakdown` read the events table under the event predicates and
  always join sessions for the views; `Breakdown` returns early exactly when
  the event name or the meta key is missing.
* `Active`, `ByHour`, `ByMinute` and `ByWeekdayAndHour` read page views, or
  events when a custom metric key or type is set.
-/

namespace Pirsch.Analyzer

open Filter QueryBuilder

/-! ## Catalog entries -/

/-- The catalog entries selected by the methods that `filter.go` never compares
against: entries of `fields.go` (not in the sources), told apart by name. -/
def fieldVisitors : Field := .other "visitors"
def fieldSessions : Field := .other "sessions"
def fieldBounceRate : Field := .other "bounce_rate"
def fieldCR : Field := .other "cr"
def fieldCustomMetricAvg : Field := .other "custom_metric_avg"
def fieldCustomMetricTotal : Field := .other "custom_metric_total"
def fieldHostname : Field := .other "hostname"
def fieldTitle : Field := .other "title"
def fieldCount : Field := .other "count"
def fieldEventTimeSpent : Field := .other "event_time_spent"
def fieldWeekday : Field := .other "weekday"
def fieldRelativeVisitors : Field := .other "relative_visitors"
def fieldReferrer : Field := .other "referrer"
def fieldReferrerName : Field := .other "referrer_name"
def fieldReferrerNameImported : Field := .other "referrer_name_imported"
def fieldReferrerIcon : Field := .other "referrer_icon"
def fieldAnyReferrer : Field := .other "any_referrer"
def fieldAnyReferrerImported : Field := .other "any_referrer_imported"
def fieldAnyReferrerIcon : Field := .other "any_referrer_icon"

/-- The custom-metric columns the statistics add when events are filtered and a
custom metric is set. -/
def customMetricFields (f : Filter) : List Field :=
  if f.dims .eventName ≠ [] ∧ f.customMetricType ≠ "" ∧ f.customMetricKey ≠ "" then
    [fieldCustomMetricAvg, fieldCustomMetricTotal] else []

theorem getFilter_snd (today : Int) (f : Option Filter) :
    (getFilter today f).2 = validate today (f.getD (newFilter nullClient)) := by
  cases f <;> rfl

/-! ## `visitors.go` -/

/-- `visitors.Active(filter, duration)`: the query of the active visitors per
page, then the query of their count.  `now` is `time.Now()`. -/
def active (today : Int) (now : Time) (duration : Int) (f : Option Filter) : QueryBuilder × QueryBuilder :=
  let filter := { (getFilter today f).2 with «from» := now.inUTC.add (-duration), includeTime := true }
  let title : List Field := if filter.includeTitle then [fieldTitle] else []
  (filter.buildQuery ([fieldHostname, .path] ++ title ++ [fieldVisitors]) ([fieldHostname, .path] ++ title)
      ([fieldVisitors, fieldHostname, .path] ++ title) [] "",
    filter.buildQuery [fieldVisitors] [] [] [] "")

/-- The fields of `Total` (lines 61–78). -/
def totalFields (f : Filter) : List Field :=
  [fieldVisitors, fieldSessions, .views, .bounces, fieldBounceRate] ++
    (if f.includeCR then [fieldCR] else []) ++ customMetricFields f

/-- `visitors.Total(filter)`. -/
def total (today : Int) (f : Option Filter) : QueryBuilder :=
  let filter := (getFilter today f).2
  filter.buildQuery (totalFields filter) [] [] [fieldVisitors, .views, fieldSessions, .bounces] "imported_visitors"

/-- The fresh filter `TotalPageViews` and `TotalSessions` query: the caller's
client, time zone, range, `ImportedUntil` and `Sample`. -/
def totalsFilter (f : Filter) : Filter :=
  { clientID := f.clientID, timezone := f.timezone, «from» := f.from, «to» := f.to,
    importedUntil := f.importedUntil, sample := f.sample }

/-- `visitors.TotalVisitors(filter)`, whose fresh filter also copies `IncludeTime`. -/
def totalVisitors (today : Int) (f : Option Filter) : QueryBuilder :=
  let filter := (getFilter today f).2
  { totalsFilter filter with includeTime := filter.includeTime }.buildQuery [fieldVisitors] [] []
    [fieldVisitors] "imported_visitors"

/-- `visitors.TotalPageViews(filter)`. -/
def totalPageViews (today : Int) (f : Option Filter) : QueryBuilder :=
  (totalsFilter (getFilter today f).2).buildQuery [.views] [] [] [.views] "imported_visitors"

/-- `visitors.TotalSessions(filter)`. -/
def totalSessions (today : Int) (f : Option Filter) : QueryBuilder :=
  (totalsFilter (getFilter today f).2).buildQuery [fieldSessions] [] [] [fieldSessions] "imported_visitors"

/-- The fields of the views bucketed by the column `bucket`. -/
def bucketFields (bucket : Field) (f : Filter) : List Field :=
  [bucket, fieldVisitors, fieldSessions, .views, .bounces, fieldBounceRate] ++
    (if f.includeCR then [.crPeriod] else []) ++ customMetricFields f

/-- What `ByPeriod`, `ByHour` and `ByMinute` share: the view bucketed by `bucket`,
grouped by it and ordered by it and the visitors. -/
def bucketQuery (bucket : Field) (fieldsImported : List Field) (fromImported : String) (today : Int)
    (f : Option Filter) : QueryBuilder :=
  let filter := (getFilter today f).2
  filter.buildQuery (bucketFields bucket filter) [bucket] [bucket, fieldVisitors] fieldsImported fromImported

/-- `visitors.ByPeriod(filter)`. -/
def byPeriod : Int → Option Filter → QueryBuilder :=
  bucketQuery .day [.day, fieldVisitors, fieldSessions, .views, .bounces] "imported_visitors"

/-- `visitors.ByHour(filter)`. -/
def byHour : Int → Option Filter → QueryBuilder :=
  bucketQuery .hour [.hour, fieldVisitors, fieldSessions, .views, .bounces] "imported_visitors"

/-- `visitors.ByMinute(filter)`, which reads no imported statistics. -/
def byMinute : Int → Option Filter → QueryBuilder :=
  bucketQuery .minute [] ""

/-- `visitors.ByWeekdayAndHour(filter)`. -/
def byWeekdayAndHour (today : Int) (f : Option Filter) : QueryBuilder :=
  (getFilter today f).2.buildQuery [fieldWeekday, .hour, fieldVisitors, fieldSessions, .views, .bounces]
    [fieldWeekday, .hour] [fieldWeekday, .hour] [] ""

/-- `visitors.Referrer(filter)`: grouped by the referrer name, and by the full
referrer when the filter selects referrers; with imported statistics the
imported rows are grouped by the referrer name or the referrer. -/
def referrer (today : Int) (f : Option Filter) : QueryBuilder :=
  let filter := (getFilter today f).2
  let byReferrer := filter.dims .referrer ≠ [] ∨ filter.dims .referrerName ≠ []
  if filter.importedUntil.IsZero then
    let fields := [fieldReferrerName, fieldReferrerIcon, fieldVisitors, fieldSessions, fieldRelativeVisitors,
      .bounces, fieldBounceRate] ++ if byReferrer then [fieldReferrer] else [fieldAnyReferrer]
    let referrerCol : List Field := if byReferrer then [fieldReferrer] else []
    filter.buildQuery fields ([fieldReferrerName] ++ referrerCol)
      ([fieldVisitors, fieldReferrerName] ++ referrerCol) [] "imported_referrer"
  else if byReferrer ∨ filter.searchContains fieldReferrer then
    filter.buildQuery
      [fieldReferrerNameImported, fieldAnyReferrerIcon, fieldVisitors, fieldSessions, fieldRelativeVisitors,
        .bounces, fieldBounceRate, fieldAnyReferrerImported]
      [fieldReferrerName, fieldAnyReferrerImported] [fieldVisitors, fieldReferrerName, fieldAnyReferrerImported]
      [fieldReferrerName, fieldVisitors, fieldSessions, .bounces] "imported_referrer"
  else
    filter.buildQuery
      [fieldReferrerName, fieldAnyReferrerIcon, fieldVisitors, fieldSessions, fieldRelativeVisitors,
        .bounces, fieldBounceRate, fieldAnyReferrer]
      [fieldReferrerName] [fieldVisitors, fieldReferrerName]
      [fieldReferrer, fieldVisitors, fieldSessions, .bounces] "imported_referrer"

/-! ## `analyzer.go` -/

/-- `analyzer.timeOnPageQuery(filter)`: the time on page, capped at
`MaxTimeOnPageSeconds` when that is positive. -/
def timeOnPageQuery (f : Filter) : String :=
  if 0 < f.maxTimeOnPageSeconds then "least(duration_seconds, " ++ toString f.maxTimeOnPageSeconds ++ ")"
  else "duration_seconds"

/-- `analyzer.selectByAttribute(filter, fromImported, attr...)`: the context and
the query.  `attr[0]` panics on an empty `attr`, after `getFilter` has validated
the caller's filter; `none` is that panic. -/
def selectByAttribute (today : Int) (f : Option Filter) (fromImported : String) :
    List Field → Option (Option Context × QueryBuilder)
  | [] => none
  | attr@(a :: _) =>
    let filter := (getFilter today f).2
    some (filter.ctx, filter.buildQuery (attr ++ [fieldVisitors, fieldRelativeVisitors]) attr
      (fieldVisitors :: attr) [a, fieldVisitors] fromImported)

/-! ## `events.go` -/

/-- `events.Events(filter)`. -/
def events (today : Int) (f : Option Filter) : QueryBuilder :=
  (getFilter today f).2.buildQuery
    [.eventName, fieldCount, fieldVisitors, .views, fieldCR, fieldEventTimeSpent, .eventMetaKeys]
    [.eventName] [fieldVisitors, .eventName] [] ""

/-- `events.Breakdown(filter)`; `none` is the early return of an empty result. -/
def breakdown (today : Int) (f : Option Filter) : Option QueryBuilder :=
  let filter := (getFilter today f).2
  if filter.dims .eventName = [] ∨ filter.dims .eventMetaKey = [] then none
  else some (filter.buildQuery
    [.eventName, fieldCount, fieldVisitors, .views, fieldCR, fieldEventTimeSpent, .eventMetaValues]
    [.eventName, .eventMetaValues] [fieldVisitors, .eventMetaValues] [] "")

/-- `events.List(filter)`. -/
def list (today : Int) (f : Option Filter) : QueryBuilder :=
  (getFilter today f).2.buildQuery [.eventName, .eventMeta, fieldVisitors, fieldCount]
    [.eventName, .eventMeta] [fieldCount, .eventName] [] ""

/-! ## The conversion rate of the bucketed views -/

section Buckets

variable {f : Filter}

/-- The custom-metric columns are catalog entries `filter.go` never names. -/
theorem not_mem_customMetricFields {x : Field} (h : ∀ s, x ≠ .other s) : x ∉ customMetricFields f := by
  unfold customMetricFields
  split_ifs
  · simpa [fieldCustomMetricAvg, fieldCustomMetricTotal] using ⟨h _, h _⟩
  · exact List.not_mem_nil x

/-- A view bucketed by the day, the hour or the minute joins the conversion-rate
sub-query when `IncludeCR` is set, grouped as the view is. -/
theorem bucketQuery_cr_join {bucket : Field} (hb : bucket = .day ∨ bucket = .hour ∨ bucket = .minute)
    (fieldsImported : List Field) (fromImported : String) (today : Int) (f : Option Filter) :
    (bucketQuery bucket fieldsImported fromImported today f).joinThird.map QueryBuilder.groupBy =
      if (getFilter today f).2.includeCR then
        some (bucketQuery bucket fieldsImported fromImported today f).groupBy
      else none := by
  unfold bucketQuery
  rw [buildQuery_joinThird, buildQuery_groupBy_search.1]
  unfold joinUniqueVisitorsByPeriod bucketFields
  cases (getFilter today f).2.includeCR <;> rcases hb with rfl | rfl | rfl <;>
    simp [fieldsContain, fieldVisitors, fieldSessions, fieldBounceRate, not_mem_customMetricFields]

/-- **The conversion rate is bucketed like the view.**  `ByPeriod`, `ByHour` and
`ByMinute` join the per-period visitor counts exactly when `IncludeCR` is set,
and that sub-query groups by the column the view groups by. -/
theorem bucket_views_cr_groupBy (today : Int) (f : Option Filter) :
    let cr := (getFilter today f).2.includeCR
    (byPeriod today f).joinThird.map QueryBuilder.groupBy =
        (if cr then some (byPeriod today f).groupBy else none) ∧
      (byHour today f).joinThird.map QueryBuilder.groupBy =
        (if cr then some (byHour today f).groupBy else none) ∧
      (byMinute today f).joinThird.map QueryBuilder.groupBy =
        (if cr then some (byMinute today f).groupBy else none) :=
  ⟨bucketQuery_cr_join (.inl rfl) _ _ _ _, bucketQuery_cr_join (.inr (.inl rfl)) _ _ _ _,
    bucketQuery_cr_join (.inr (.inr rfl)) _ _ _ _⟩

end Buckets

/-! ## The totals -/

section Totals

variable {g : Filter} {x : Field}

/-- A filter with no predicate, no search and no custom metric, queried for one
plain statistic: one scan of the sessions table with no sub-query. -/
theorem buildQuery_plain (hd : ∀ d, g.dims d = []) (ht : g.tags.len = 0) (hs : g.search = [])
    (hk : g.customMetricKey = "") (hty : g.customMetricType = "") (hx : x = .views ∨ ∃ s, x = .other s)
    (groupBy orderBy fieldsImported : List Field) (fromImported : String) :
    (g.buildQuery [x] groupBy orderBy fieldsImported fromImported).from = .sessions ∧
      (g.buildQuery [x] groupBy orderBy fieldsImported fromImported).children = [] := by
  have hr : ¬g.EventsRoot [x] := by
    rcases hx with rfl | ⟨s, rfl⟩ <;> simp [EventsRoot, fieldsContain, hk, hty]
  have htab : g.table [x] = .sessions := by
    rcases hx with rfl | ⟨s, rfl⟩ <;> simp [table, fieldsContain, hd, ht, hk, hty, searchContains, hs]
  rw [buildQuery_of_sessions hr htab]
  rcases hx with rfl | ⟨s, rfl⟩ <;>
    simp [children, joinOrLeftJoinEvents, joinPageViews, joinEvents, joinUniqueVisitorsByPeriod,
      valuesContainPrefix, fieldsContain, searchContains, hd, ht, hs, rootBuilder, QueryBuilder.empty, htab]

/-- The query of a fresh filter made of the copied fields of `v`. -/
theorem buildQuery_totalsFilter (v : Filter) (b : Bool) (hx : x = .views ∨ ∃ s, x = .other s)
    (fieldsImported : List Field) :
    let q := ({ totalsFilter v with includeTime := b } : Filter).buildQuery [x] [] [] fieldsImported
      "imported_visitors"
    q.from = .sessions ∧ q.children = [] ∧ q.search = [] ∧
      ∃ b', q.filter = { totalsFilter v with includeTime := b' } := by
  obtain ⟨hf, hc⟩ := @buildQuery_plain { totalsFilter v with includeTime := b } x (fun _ => rfl) rfl rfl rfl rfl hx
    [] [] fieldsImported "imported_visitors"
  exact ⟨hf, hc, buildQuery_groupBy_search.2, b, buildQuery_filter⟩

/-- **The totals ignore the caller's predicates.**  `TotalVisitors`,
`TotalPageViews` and `TotalSessions` each query one scan of the sessions table,
with no sub-query and no search, under a filter holding only the client, the
time zone, the range, `ImportedUntil` and `Sample` of the validated filter:
every path, event, tag or other predicate the caller set is dropped.  Of the
three only `TotalVisitors` keeps `IncludeTime`. -/
theorem totals_plain_scan (today : Int) (f : Option Filter) :
    let v := (getFilter today f).2
    (∀ q ∈ [totalVisitors today f, totalPageViews today f, totalSessions today f],
      q.from = .sessions ∧ q.children = [] ∧ q.search = [] ∧
        ∃ b, q.filter = { totalsFilter v with includeTime := b }) ∧
    (totalVisitors today f).filter.includeTime = v.includeTime ∧
    (totalPageViews today f).filter.includeTime = false ∧ (totalSessions today f).filter.includeTime = false := by
  refine ⟨?_, ?_, ?_, ?_⟩
  · simp only [List.mem_cons, List.mem_singleton, List.not_mem_nil, or_false]
    rintro q (rfl | rfl | rfl)
    · exact buildQuery_totalsFilter _ _ (.inr ⟨_, rfl⟩) _
    · exact buildQuery_totalsFilter _ false (.inl rfl) _
    · exact buildQuery_totalsFilter _ false (.inr ⟨_, rfl⟩) _
  · unfold totalVisitors; rw [buildQuery_filter]
  · unfold totalPageViews; rw [buildQuery_filter]; rfl
  · unfold totalSessions; rw [buildQuery_filter]; rfl

end Totals

/-! ## Events -/

section Events

variable {f : Filter} {fields groupBy orderBy fieldsImported : List Field} {fromImported : String}

/-- On the branch of line 687 the outer query reads events under the event
predicates, joined to sessions. -/
theorem buildQuery_eventsRoot_spec (h : f.EventsRoot fields) :
    let q := f.buildQuery fields groupBy orderBy fieldsImported fromImported
    q.from = .events ∧ q.includeEventFilter = true ∧ q.filter = f ∧ q.join = f.joinSessions .events fields := by
  rw [buildQuery_of_eventsRoot h]; exact ⟨rfl, rfl, rfl, rfl⟩

/-- An events query that selects views joins sessions for them. -/
theorem buildQuery_events_join (hr : f.EventsRoot fields) (hv : fieldsContain fields .views) :
    let q := f.buildQuery fields groupBy orderBy fieldsImported fromImported
    q.from = .events ∧ q.includeEventFilter = true ∧ q.filter = f ∧ q.join.isSome := by
  obtain ⟨h₁, h₂, h₃, h₄⟩ := @buildQuery_eventsRoot_spec f fields groupBy orderBy fieldsImported fromImported hr
  refine ⟨h₁, h₂, h₃, h₄ ▸ ?_⟩
  unfold joinSessions
  rw [if_pos (.inr (.inr (.inr (.inl ⟨rfl, hv⟩))))]
  rfl

/-- **The event statistics read events.**  `Events` and, when it does not return
early, `Breakdown` query the events table under the event predicates of the
validated filter and always join sessions, for the views; `List` queries the
events table too.  `Breakdown` returns early exactly when the validated filter
has no event name or no meta key. -/
theorem events_read_events (today : Int) (f : Option Filter) :
    let v := (getFilter today f).2
    ((breakdown today f).isSome ↔ v.dims .eventName ≠ [] ∧ v.dims .eventMetaKey ≠ []) ∧
    (∀ q ∈ events today f :: (breakdown today f).toList,
      q.from = .events ∧ q.includeEventFilter = true ∧ q.filter = v ∧ q.join.isSome) ∧
    (list today f).from = .events ∧ (list today f).includeEventFilter = true ∧ (list today f).filter = v := by
  intro v
  have hE : ∀ x gb ob, x = .eventMetaKeys ∨ x = .eventMetaValues →
      let q := v.buildQuery [.eventName, fieldCount, fieldVisitors, .views, fieldCR, fieldEventTimeSpent, x]
        gb ob [] ""
      q.from = .events ∧ q.includeEventFilter = true ∧ q.filter = v ∧ q.join.isSome := by
    rintro x gb ob (rfl | rfl) <;> refine buildQuery_events_join ?_ (by simp [fieldsContain]) <;>
      simp [EventsRoot, fieldsContain, fieldCount, fieldVisitors, fieldCR, fieldEventTimeSpent]
  obtain ⟨hL₁, hL₂, hL₃, -⟩ := @buildQuery_eventsRoot_spec v [.eventName, .eventMeta, fieldVisitors, fieldCount]
    [.eventName, .eventMeta] [fieldCount, .eventName] [] ""
    (by simp [EventsRoot, fieldsContain, fieldCount, fieldVisitors])
  refine ⟨?_, ?_, hL₁, hL₂, hL₃⟩ <;> unfold breakdown <;> dsimp only <;> split_ifs with h
  · simpa only [Option.isSome_none, Bool.false_eq_true, false_iff, not_and_or, not_not] using h
  · simpa only [Option.isSome_some, true_iff] using not_or.mp h
  · simpa using hE _ _ _ (.inl rfl)
  · simpa using ⟨hE _ _ _ (.inl rfl), hE _ _ _ (.inr rfl)⟩

end Events

/-! ## The page-view statistics -/

section PageViews

variable {f : Filter} {fields : List Field}

/-- A query that selects the path, the hour or the minute, and none of the
fields that send it elsewhere, reads page views, unless a custom metric key or
type is set: line 687 then sends it to events first. -/
theorem buildQuery_from_of_pageView_field
    (hx : fieldsContain fields .path ∨ fieldsContain fields .hour ∨ fieldsContain fields .minute)
    (hn : ¬fieldsContain fields .eventName ∧ ¬fieldsContain fields .eventsAll ∧ ¬fieldsContain fields .tagKey ∧
      ¬fieldsContain fields .tagValue ∧ ¬fieldsContain fields .sessionsAll)
    (groupBy orderBy fieldsImported : List Field) (fromImported : String) :
    (f.buildQuery fields groupBy orderBy fieldsImported fromImported).from =
      if f.customMetricKey ≠ "" ∨ f.customMetricType ≠ "" then .events else .pageViews := by
  obtain ⟨hE, hA, hK, hV, hS⟩ := hn
  rw [buildQuery_from]
  by_cases hc : f.customMetricKey ≠ "" ∨ f.customMetricType ≠ ""
  · rw [if_pos hc, if_pos ⟨.inr (hc.elim .inl fun h => .inr (.inl h)), hK, hV⟩]
  · have hr : ¬f.EventsRoot fields := fun h => h.1.elim hE fun h' => h'.elim (fun hk => hc (.inl hk))
      fun h'' => h''.elim (fun ht => hc (.inr ht)) hA
    have ht : f.table fields = .pageViews := by
      unfold table
      rw [if_pos]
      refine ⟨?_, .inl (not_not.mp fun h => hc (.inr h)), hS⟩
      rcases hx with h | h | h <;> simp only [h, true_or, or_true]
    rw [if_neg hc, if_neg hr, ht, if_neg (by decide)]

/-- **The per-page and time-of-day statistics read page views**, or events when
the validated filter sets a custom metric key or type: `Active` selects the
path, `ByHour` and `ByWeekdayAndHour` the hour, `ByMinute` the minute. -/
theorem pageView_queries_from (today : Int) (now : Time) (duration : Int) (f : Option Filter) :
    let v := (getFilter today f).2
    let t : Table := if v.customMetricKey ≠ "" ∨ v.customMetricType ≠ "" then .events else .pageViews
    (active today now duration f).1.from = t ∧ (byHour today f).from = t ∧ (byMinute today f).from = t ∧
      (byWeekdayAndHour today f).from = t := by
  refine ⟨buildQuery_from_of_pageView_field ?_ ?_ _ _ _ _, buildQuery_from_of_pageView_field ?_ ?_ _ _ _ _,
    buildQuery_from_of_pageView_field ?_ ?_ _ _ _ _, buildQuery_from_of_pageView_field ?_ ?_ _ _ _ _⟩ <;>
  simp [fieldsContain, bucketFields, fieldHostname, fieldTitle, fieldVisitors, fieldSessions, fieldBounceRate,
    fieldWeekday, not_mem_customMetricFields]

end PageViews

end Pirsch.Analyzer
