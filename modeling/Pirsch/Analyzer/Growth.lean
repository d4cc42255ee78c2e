import Pirsch.Analyzer.PreviousPeriod
import Pirsch.Analyzer.Queries

/-!
# The two periods of `Growth`

`Growth` and `TotalVisitorsPageViews` (`visitors.go`) validate the caller's
filter, build the query of its period, move the filter to the previous period
with `getPreviousPeriod` and build the query again with the same fields.  The
growth rates they return compare the two results, so they mean something only if
the two queries differ in the period alone.

`buildQuery` keeps the filter it is given, or one derived from it, in every
builder of the tree, and reads the range fields (`From`, `To`, `ImportedFrom`,
`ImportedTo`, `IncludeTime`) nowhere else.  `buildQuery_withRangeOf` says so:
with those fields erased in every builder (`mapFilter stripRange`), the trees of
two filters that differ in the range only are equal.  `comparePeriods_spec` puts
it together with `getPreviousPeriod`, which changes the range fields only;
`growth_spec` adds that both periods measure the time spent the same way, and
`growth_current_total` that the current period is read as `Total` reads it.

The two results are then compared field by field with `calculateGrowth`, which
divides by the previous value only when it is not zero
(`calculateGrowth_eq`); the division itself is `Float`'s.
-/

namespace Pirsch

namespace QueryBuilder

/-- Apply `φ` to the filter of every builder of a tree. -/
def mapFilter (φ : Filter → Filter) : QueryBuilder → QueryBuilder
  | ⟨filter, fi, fr, fimp, js, s, gb, ob, o, l, sa, fin, fs, ief, join, join2, lj, jt⟩ =>
    ⟨φ filter, fi, fr, fimp, js, s, gb, ob, o, l, sa, fin, fs, ief,
      match join with | none => none | some c => some (mapFilter φ c),
      match join2 with | none => none | some c => some (mapFilter φ c),
      match lj with | none => none | some c => some (mapFilter φ c),
      match jt with | none => none | some c => some (mapFilter φ c)⟩

theorem mapFilter_eq (φ : Filter → Filter) (q : QueryBuilder) :
    mapFilter φ q = { q with
      filter := φ q.filter
      join := q.join.map (mapFilter φ)
      joinSecond := q.joinSecond.map (mapFilter φ)
      leftJoin := q.leftJoin.map (mapFilter φ)
      joinThird := q.joinThird.map (mapFilter φ) } := by
  obtain ⟨filter, fi, fr, fimp, js, s, gb, ob, o, l, sa, fin, fs, ief, join, join2, lj, jt⟩ := q
  cases join <;> cases join2 <;> cases lj <;> cases jt <;> rfl

end QueryBuilder

namespace Analyzer

open Filter QueryBuilder

/-! ## Erasing the range -/

/-- A filter with its range fields at their zero values. -/
def stripRange (f : Filter) : Filter := withRangeOf f {}

variable {f g : Filter} {fields : List Field} {t : Table}

theorem joinSessions_withRangeOf :
    ((withRangeOf f g).joinSessions t fields).map (mapFilter stripRange) =
      (f.joinSessions t fields).map (mapFilter stripRange) := by
  unfold joinSessions; dsimp only [withRangeOf]; split <;> rfl

theorem joinPageViews_withRangeOf :
    ((withRangeOf f g).joinPageViews fields).map (mapFilter stripRange) =
      (f.joinPageViews fields).map (mapFilter stripRange) := by
  unfold joinPageViews searchContains; dsimp only [withRangeOf]; split <;> rfl

theorem joinEvents_withRangeOf :
    ((withRangeOf f g).joinEvents fields).map (mapFilter stripRange) =
      (f.joinEvents fields).map (mapFilter stripRange) := by
  unfold joinEvents; dsimp only [withRangeOf]; split <;> rfl

theorem joinUniqueVisitorsByPeriod_withRangeOf :
    ((withRangeOf f g).joinUniqueVisitorsByPeriod fields).map (mapFilter stripRange) =
      (f.joinUniqueVisitorsByPeriod fields).map (mapFilter stripRange) := by
  unfold joinUniqueVisitorsByPeriod; dsimp only [withRangeOf]; split <;> rfl

variable {groupBy orderBy fieldsImported : List Field} {fromImported : String}

/-- The two shapes that join events through `joinOrLeftJoinEvents`, for a first
join `J` that reads nothing of the range. -/
theorem joinOrLeftJoinEvents_withRangeOf (J : Filter → Option QueryBuilder)
    (hJ : (J (withRangeOf f g)).map (mapFilter stripRange) = (J f).map (mapFilter stripRange)) :
    mapFilter stripRange { (withRangeOf f g).joinOrLeftJoinEvents
        { (withRangeOf f g).rootBuilder fields groupBy orderBy fieldsImported fromImported with
          fields := fields, join := J (withRangeOf f g) } fields with
        joinThird := (withRangeOf f g).joinUniqueVisitorsByPeriod fields } =
      mapFilter stripRange { f.joinOrLeftJoinEvents
        { f.rootBuilder fields groupBy orderBy fieldsImported fromImported with
          fields := fields, join := J f } fields with
        joinThird := f.joinUniqueVisitorsByPeriod fields } := by
  have hn : valuesContainPrefix ((withRangeOf f g).dims .eventName) "!" =
      valuesContainPrefix (f.dims .eventName) "!" := rfl
  simp only [joinOrLeftJoinEvents_eq, hn]
  split_ifs
  all_goals
    rw [mapFilter_eq, mapFilter_eq]
    dsimp only
    rw [hJ, joinUniqueVisitorsByPeriod_withRangeOf]
  · rfl
  · rw [joinEvents_withRangeOf]; rfl

/-- **`buildQuery` reads the range only into the filters it keeps.**  Two filters
that differ in the range fields alone give the same tree once those fields are
erased in every builder: the same tables, joins, columns and predicates. -/
theorem buildQuery_withRangeOf (f g : Filter) (fields groupBy orderBy fieldsImported : List Field)
    (fromImported : String) :
    mapFilter stripRange ((withRangeOf f g).buildQuery fields groupBy orderBy fieldsImported fromImported) =
      mapFilter stripRange (f.buildQuery fields groupBy orderBy fieldsImported fromImported) := by
  have ht' : (withRangeOf f g).table fields = f.table fields := rfl
  by_cases hr : f.EventsRoot fields
  · rw [buildQuery_of_eventsRoot hr, buildQuery_of_eventsRoot (show (withRangeOf f g).EventsRoot fields from hr),
      mapFilter_eq, mapFilter_eq]
    dsimp only
    rw [joinSessions_withRangeOf, joinUniqueVisitorsByPeriod_withRangeOf]
    rfl
  have hr' : ¬(withRangeOf f g).EventsRoot fields := hr
  cases ht : f.table fields
  · rw [buildQuery_of_sessions hr ht, buildQuery_of_sessions hr' (ht'.trans ht)]
    exact joinOrLeftJoinEvents_withRangeOf (joinPageViews · fields) joinPageViews_withRangeOf
  · rw [buildQuery_of_pageViews hr ht, buildQuery_of_pageViews hr' (ht'.trans ht)]
    exact joinOrLeftJoinEvents_withRangeOf (joinSessions · .pageViews fields) joinSessions_withRangeOf
  · rw [buildQuery_of_events hr ht, buildQuery_of_events hr' (ht'.trans ht), mapFilter_eq, mapFilter_eq]
    dsimp only
    rw [joinUniqueVisitorsByPeriod_withRangeOf]
    rfl

/-! ## Two periods -/

/-- `ErrNoPeriodOrDay`. -/
inductive AnalyzerError where
  | noPeriodOrDay
deriving DecidableEq, Repr

/-- The text of each error (line 15). -/
def AnalyzerError.message : AnalyzerError → String
  | .noPeriodOrDay => "no period or day specified"

/-- What `Growth` and `TotalVisitorsPageViews` share: validate the filter, refuse
one without a range, build the query of the period, move the filter to the
previous period and build its query with the same field lists. `getFilter`
reads the day `today₁`, `getPreviousPeriod` the day `today₂` and the instant
`now`. -/
def comparePeriods (today₁ today₂ : Int) (now : Time) (fields fieldsImported : Filter → List Field)
    (f : Option Filter) : Except AnalyzerError (QueryBuilder × QueryBuilder) :=
  let filter := (getFilter today₁ f).2
  if filter.from.IsZero ∨ filter.to.IsZero then .error .noPeriodOrDay
  else
    let fs := fields filter
    let fi := fieldsImported filter
    let current := filter.buildQuery fs [] [] fi "imported_visitors"
    let filter := getPreviousPeriod today₂ now filter
    .ok (current, filter.buildQuery fs [] [] fi "imported_visitors")

/-- `visitors.TotalVisitorsPageViews(filter)` (lines 160–202), up to the store calls. -/
def totalVisitorsPageViews (today₁ today₂ : Int) (now : Time) (f : Option Filter) :
    Except AnalyzerError (QueryBuilder × QueryBuilder) :=
  comparePeriods today₁ today₂ now (fun _ => [fieldVisitors, .views]) (fun _ => [fieldVisitors, .views]) f

/-- The fields of `Growth` (lines 366–389). -/
def growthFields (f : Filter) : List Field :=
  [fieldVisitors, fieldSessions, .views, .bounces, fieldBounceRate] ++
    (if f.includeCR then [fieldCR] else []) ++ customMetricFields f

/-- The imported fields of `Growth` (lines 373–378). -/
def growthFieldsImported : List Field := [fieldVisitors, fieldSessions, .views, .bounces]

/-- How `Growth` measures the time spent (lines 398–406 and 420–428). -/
inductive TimeSpent where
  | eventDuration | sessionDuration | timeOnPage
deriving DecidableEq, Repr

/-- `totalEventDuration` when events are filtered, `totalSessionDuration` when no
path is, `totalTimeOnPage` otherwise. -/
def timeSpent (f : Filter) : TimeSpent :=
  if f.dims .eventName ≠ [] then .eventDuration
  else if f.dims .path = [] then .sessionDuration else .timeOnPage

/-- The measure reads the dimensions only. -/
theorem timeSpent_withRangeOf (f g : Filter) : timeSpent (withRangeOf f g) = timeSpent f := rfl

/-- `visitors.Growth(filter)`, up to the store calls and `calculateGrowth`: the query
and the time-spent measure of each period. -/
def growth (today₁ today₂ : Int) (now : Time) (f : Option Filter) :
    Except AnalyzerError ((QueryBuilder × TimeSpent) × (QueryBuilder × TimeSpent)) :=
  (comparePeriods today₁ today₂ now growthFields (fun _ => growthFieldsImported) f).map
    fun (current, previous) => ((current, timeSpent current.filter), (previous, timeSpent previous.filter))

section Periods

/-- The previous period of a validated filter differs from it in the range fields only. -/
theorem withRangeOf_getPreviousPeriod (today today₂ : Int) (now : Time) (f : Filter) :
    withRangeOf (validate today f) (getPreviousPeriod today₂ now (validate today f)) =
      getPreviousPeriod today₂ now (validate today f) := by
  unfold getPreviousPeriod
  split
  · exact validate_withRangeOf validateDefaults_validate (validateFields_validateFields _) shiftRange_withRangeOf
  · exact shiftRange_withRangeOf

/-- The query of the previous period is the query of the period with only the range
fields of its filters changed. -/
theorem buildQuery_getPreviousPeriod (today₁ today₂ : Int) (now : Time) (f : Option Filter)
    (fields groupBy orderBy fieldsImported : List Field) (fromImported : String) :
    mapFilter stripRange ((getPreviousPeriod today₂ now (getFilter today₁ f).2).buildQuery
        fields groupBy orderBy fieldsImported fromImported) =
      mapFilter stripRange ((getFilter today₁ f).2.buildQuery fields groupBy orderBy fieldsImported fromImported) := by
  rw [getFilter_snd, ← withRangeOf_getPreviousPeriod today₁ today₂ now]
  exact buildQuery_withRangeOf _ _ _ _ _ _ _

/-- **The previous period is queried like the current one.**  `comparePeriods`,
and so `TotalVisitorsPageViews` and `Growth`, refuses exactly the validated
filters without `From` or `To`; otherwise the previous-period query is built on
the previous period of the validated filter, and it is the current query with
only the range fields of its filters changed: the same tables, joins, columns
and every other predicate. -/
theorem comparePeriods_spec (today₁ today₂ : Int) (now : Time) (fields fieldsImported : Filter → List Field)
    (f : Option Filter) :
    let v := (getFilter today₁ f).2
    match comparePeriods today₁ today₂ now fields fieldsImported f with
    | .error e => e = .noPeriodOrDay ∧ (v.from.IsZero ∨ v.to.IsZero)
    | .ok (q, q') => ¬(v.from.IsZero ∨ v.to.IsZero) ∧ q.filter = v ∧
        q'.filter = getPreviousPeriod today₂ now v ∧ mapFilter stripRange q' = mapFilter stripRange q := by
  intro v
  unfold comparePeriods
  dsimp only
  split_ifs with h
  · exact ⟨rfl, h⟩
  · exact ⟨h, buildQuery_filter, buildQuery_filter, buildQuery_getPreviousPeriod _ _ _ _ _ _ _ _ _⟩

/-- `Growth` measures the time spent of both periods the same way, on queries of
the same shape. -/
theorem growth_spec (today₁ today₂ : Int) (now : Time) (f : Option Filter) :
    let v := (getFilter today₁ f).2
    match growth today₁ today₂ now f with
    | .error e => e = .noPeriodOrDay ∧ (v.from.IsZero ∨ v.to.IsZero)
    | .ok ((q, k), (q', k')) => q'.filter = getPreviousPeriod today₂ now v ∧
        mapFilter stripRange q' = mapFilter stripRange q ∧ k' = k := by
  intro v
  unfold growth comparePeriods
  dsimp only
  split_ifs with h
  · exact ⟨rfl, h⟩
  · refine ⟨buildQuery_filter, buildQuery_getPreviousPeriod _ _ _ _ _ _ _ _ _, ?_⟩
    simp only [buildQuery_filter, v, getFilter_snd]
    rw [← withRangeOf_getPreviousPeriod today₁ today₂ now, timeSpent_withRangeOf]

/-- **`Growth` reads the current period as `Total` does.**  Unless it refuses the
filter, the current-period query of `Growth` is the query of `Total`, with the
imported columns in `Growth`'s order. -/
theorem growth_current_total (today₁ today₂ : Int) (now : Time) (f : Option Filter) :
    (growth today₁ today₂ now f).map (fun r => r.1.1) =
      if (getFilter today₁ f).2.from.IsZero ∨ (getFilter today₁ f).2.to.IsZero then .error .noPeriodOrDay
      else .ok { total today₁ f with fieldsImported := growthFieldsImported } := by
  unfold growth comparePeriods total
  dsimp only
  split_ifs
  · rfl
  · exact congrArg Except.ok (buildQuery_fieldsImported _)

end Periods

/-! ## Growth rates -/

section Rates

variable {T : Type} [BEq T] [OfNat T 0] (toFloat64 : T → Float) {current previous : T}

/-- `calculateGrowth[T int | float64](current, previous)` (lines 697–707), where
`toFloat64` is the conversion `float64(·)` of `T`: `Float.ofInt` for `int`, `id`
for `float64`. -/
def calculateGrowth (current previous : T) : Float :=
  if current == 0 && previous == 0 then 0
  else if previous == 0 then 1
  else
    let c := toFloat64 current
    let p := toFloat64 previous
    (c - p) / p

/-- The rate divides by the previous value only when it is not zero; a previous
zero gives `0` when the current value is zero as well and `1` otherwise. -/
theorem calculateGrowth_eq :
    calculateGrowth toFloat64 current previous =
      if previous == 0 then (if current == 0 then 0 else 1)
      else (toFloat64 current - toFloat64 previous) / toFloat64 previous := by
  unfold calculateGrowth
  cases current == 0 <;> cases previous == 0 <;> rfl

theorem calculateGrowth_of_ne_zero (h : (previous == 0) = false) :
    calculateGrowth toFloat64 current previous =
      (toFloat64 current - toFloat64 previous) / toFloat64 previous := by
  rw [calculateGrowth_eq, h]; rfl

variable [LawfulBEq T]

/-- No change from zero is no growth. -/
theorem calculateGrowth_zero_zero : calculateGrowth toFloat64 (0 : T) 0 = 0 := by
  rw [calculateGrowth_eq, beq_self_eq_true]; rfl

/-- Any change from zero counts as a growth of 100 %. -/
theorem calculateGrowth_of_previous_zero (h : current ≠ 0) :
    calculateGrowth toFloat64 current 0 = 1 := by
  rw [calculateGrowth_eq, beq_self_eq_true, beq_false_of_ne h]; rfl

end Rates

end Analyzer

end Pirsch
