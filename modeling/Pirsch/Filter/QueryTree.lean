import Pirsch.Filter.BuildQuery

/-!
# Where the event predicates go

A filter on `EventName` must be applied exactly once in the tree `buildQuery`
builds, and where a name is negated (`!name`) it must not be applied by an
inner join, which would drop every session without a matching event.  A
builder applies the event predicates when its filter holds event names and it
reads the events table or has `includeEventFilter` set
(`CarriesEventFilter`).

`buildQuery_event_filter` shows the tree does this on all four branches of
`buildQuery`: a negated name never meets an inner join of events but is read by
the outer query or the left join, the left join clears the event predicates
for the outer query to apply while the inner join keeps them, at most one
sub-query reads events, and exactly one builder carries the predicates.  It
rests on one fact per sub-query constructor: the sessions, page-views and
conversion-rate sub-queries never read events nor carry the flag
(`SideQuery`), the left join of events has its event predicates cleared, and
the inner join keeps them.

`buildQuery_child_filter` says which copy of the filter each sub-query works
on; `buildQuery_leftJoin_keeps_path` shows that the left join of events, unlike
the inner one, keeps the path predicates.
-/

namespace Pirsch

namespace QueryBuilder

/-- The builder applies the event predicates of its filter. -/
def CarriesEventFilter (b : QueryBuilder) : Prop :=
  b.filter.dims .eventName ≠ [] ∧ (b.from = .events ∨ b.includeEventFilter = true)

instance (b : QueryBuilder) : Decidable b.CarriesEventFilter :=
  inferInstanceAs (Decidable (_ ∧ _))

/-- A sub-query that neither reads events nor applies event predicates. -/
def SideQuery (c : QueryBuilder) : Prop := c.from ≠ .events ∧ ¬c.CarriesEventFilter

theorem sideQuery_of {c : QueryBuilder} (hf : c.from ≠ .events) (hi : c.includeEventFilter = false) :
    c.SideQuery :=
  ⟨hf, fun h => h.2.elim hf (by simp [hi])⟩

end QueryBuilder

open QueryBuilder

namespace Filter

section Side

variable {f : Filter} {fields : List Field} {t : Table}

theorem joinSessions_side : ∀ c ∈ (f.joinSessions t fields).toList, c.SideQuery := fun _ h =>
  have hs := joinSessions_spec h
  sideQuery_of (by rw [hs.1]; decide) hs.2.1

theorem joinPageViews_side : ∀ c ∈ (f.joinPageViews fields).toList, c.SideQuery := fun _ h =>
  have hs := joinPageViews_spec h
  sideQuery_of (by rw [hs.1]; decide) hs.2.1

theorem joinUniqueVisitorsByPeriod_side :
    ∀ c ∈ (f.joinUniqueVisitorsByPeriod fields).toList, c.SideQuery := fun _ h =>
  have hs := joinUniqueVisitorsByPeriod_spec h
  sideQuery_of (by rw [hs.1]; decide) hs.2.1

/-- The left join of events has its event names cleared. -/
theorem leftJoinEvents_not_carries : ¬(f.leftJoinEvents fields).CarriesEventFilter := by
  simp [CarriesEventFilter, leftJoinEvents_spec, clearDims]

/-- The inner join of events keeps the event names. -/
theorem joinEvents_carries {c : QueryBuilder} (h : c ∈ (f.joinEvents fields).toList) :
    c.from = .events ∧ (c.CarriesEventFilter ↔ f.dims .eventName ≠ []) := by
  obtain ⟨hf, -, hc, -⟩ := joinEvents_spec h
  simp [CarriesEventFilter, hf, hc, clearDims]

theorem countP_side {l : List QueryBuilder} (h : ∀ c ∈ l, c.SideQuery) :
    l.countP (fun c => decide (c.from = .events)) = 0 ∧ l.countP (fun c => decide c.CarriesEventFilter) = 0 :=
  ⟨List.countP_eq_zero.mpr fun c hc => by simpa using (h c hc).1,
    List.countP_eq_zero.mpr fun c hc => by simpa using (h c hc).2⟩

end Side

/-! ## The event predicates -/

/-- The event predicates of `f` are placed right in the tree rooted at `q`. -/
structure EventFilterPlaced (f : Filter) (q : QueryBuilder) : Prop where
  /-- A negated event name is never applied by an inner join of events. -/
  negated_not_inner : valuesContainPrefix (f.dims .eventName) "!" →
    ∀ c ∈ q.join.toList ++ q.joinSecond.toList, c.from ≠ .events
  /-- Under a negated event name the events are read by the outer query or the left join. -/
  negated_read : valuesContainPrefix (f.dims .eventName) "!" →
    q.from = .events ∨ ∃ c ∈ q.leftJoin.toList, c.from = .events
  /-- The left join reads events with `EventName`, `EventMetaKey` and `EventMeta`
  cleared, and the outer query applies them. -/
  left_join_cleared : ∀ c ∈ q.leftJoin.toList, c.from = .events ∧ c.filter.dims .eventName = [] ∧
    c.filter.dims .eventMetaKey = [] ∧ c.filter.eventMeta = .empty ∧ q.includeEventFilter = true
  /-- An inner join of events keeps `EventName`, `EventMetaKey` and `EventMeta`, and
  the outer query does not apply them. -/
  inner_events_keep : ∀ c ∈ q.join.toList ++ q.joinSecond.toList, c.from = .events →
    c.filter.dims .eventName = f.dims .eventName ∧ c.filter.dims .eventMetaKey = f.dims .eventMetaKey ∧
      c.filter.eventMeta = f.eventMeta ∧ q.includeEventFilter = false
  /-- At most one sub-query reads events. -/
  one_events_child : q.children.countP (fun c => decide (c.from = .events)) ≤ 1
  /-- Event names are applied by exactly one builder. -/
  carried_once : f.dims .eventName ≠ [] → (q :: q.children).countP (fun b => decide b.CarriesEventFilter) = 1

section Placed

variable {f : Filter} {fields : List Field} {q : QueryBuilder}

/-- The three ways `buildQuery` arranges the events: the outer query reads them, a
left join reads them with the outer query applying the predicates, or an inner
join reads them and applies them.  Whatever the arrangement, the predicates are
placed right when the other two sub-queries are side queries. -/
theorem eventFilterPlaced_of (hf : q.filter = f) (hJ : ∀ c ∈ q.join.toList, c.SideQuery)
    (hT : ∀ c ∈ q.joinThird.toList, c.SideQuery)
    (h : (q.from = .events ∧ q.joinSecond = none ∧ q.leftJoin = none) ∨
      (q.includeEventFilter = true ∧ q.joinSecond = none ∧ q.leftJoin = some (f.leftJoinEvents fields)) ∨
      (¬valuesContainPrefix (f.dims .eventName) "!" ∧ q.from ≠ .events ∧ q.includeEventFilter = false ∧
        q.joinSecond = f.joinEvents fields ∧ q.leftJoin = none)) :
    EventFilterPlaced f q := by
  obtain ⟨hJe, hJc⟩ := countP_side hJ
  obtain ⟨hTe, hTc⟩ := countP_side hT
  have hneg : ∀ c ∈ q.join.toList, c.from ≠ .events := fun c hc => (hJ c hc).1
  -- without a second join, no inner join reads events
  have hno (h₂ : q.joinSecond = none) : ∀ c ∈ q.join.toList ++ q.joinSecond.toList, c.from ≠ .events := by
    simpa [h₂] using hneg
  rcases h with ⟨hr, h₂, h₃⟩ | ⟨hi, h₂, h₃⟩ | ⟨hn, hr, hi, h₂, h₃⟩
  · -- the outer query reads events
    refine ⟨fun _ => hno h₂, fun _ => .inl hr, by simp [h₃], fun c hc he => absurd he (hno h₂ c hc),
      by simp [children, h₂, h₃, hJe, hTe], fun he => ?_⟩
    have hq : q.CarriesEventFilter := ⟨hf ▸ he, .inl hr⟩
    simp [children, h₂, h₃, hJc, hTc, hq]
  · -- a left join reads events; the outer query applies the predicates
    refine ⟨fun _ => hno h₂, fun _ => .inr ⟨f.leftJoinEvents fields, by simp [h₃], leftJoinEvents_spec.1⟩,
      fun c hc => ?_, fun c hc he => absurd he (hno h₂ c hc),
      by simp [children, h₂, h₃, hJe, hTe, leftJoinEvents_spec], fun he => ?_⟩
    · obtain rfl : c = f.leftJoinEvents fields := by simpa [h₃] using hc
      simp [leftJoinEvents_spec, clearDims, hi]
    · have hq : q.CarriesEventFilter := ⟨hf ▸ he, .inr hi⟩
      simp [children, h₂, h₃, hJc, hTc, hq, leftJoinEvents_not_carries]
  · -- an inner join reads events and applies the predicates
    refine ⟨fun h => absurd h hn, fun h => absurd h hn, by simp [h₃], fun c hc he => ?_, ?_, fun he => ?_⟩
    · rcases List.mem_append.mp hc with hc | hc
      · exact absurd he (hneg c hc)
      · rw [h₂] at hc
        simp [(joinEvents_spec hc).2.2.1, clearDims, hi]
    · simp only [children, h₂, h₃, List.countP_append, hJe, hTe, Option.toList_none, List.countP_nil]
      calc _ ≤ (f.joinEvents fields).toList.length := by
            simpa using List.countP_le_length _
        _ ≤ 1 := by cases f.joinEvents fields <;> simp
    · cases hE : f.joinEvents fields with
      | none => exact absurd (by rw [hE]; rfl) (@joinEvents_ne_nil f fields he)
      | some c =>
          have hcar := (@joinEvents_carries f fields c (by simp [hE])).2.mpr he
          have hq : ¬q.CarriesEventFilter := fun h => h.2.elim hr (by simp [hi])
          simp [children, h₂, h₃, hJc, hTc, hE, hcar, hq]

end Placed

/-- **The event predicates are applied once.**  In the tree `buildQuery` builds, a
negated event name never meets an inner join of events and is read by the outer
query or the left join; the left join has the event predicates cleared and the
outer query applies them, while an inner join of events keeps them; at most one
sub-query reads events; and when the filter holds event names exactly one
builder applies them. -/
theorem buildQuery_event_filter (f : Filter) (fields groupBy orderBy fieldsImported : List Field)
    (fromImported : String) :
    EventFilterPlaced f (f.buildQuery fields groupBy orderBy fieldsImported fromImported) := by
  have hT := @joinUniqueVisitorsByPeriod_side f fields
  by_cases hr : f.EventsRoot fields
  · rw [buildQuery_of_eventsRoot hr]
    exact @eventFilterPlaced_of f fields _ rfl joinSessions_side hT (.inl ⟨rfl, rfl, rfl⟩)
  cases ht : f.table fields
  · -- sessions: a page-views join, then the events
    rw [buildQuery_of_sessions hr ht, joinOrLeftJoinEvents_eq]
    split_ifs with hn
    · exact eventFilterPlaced_of rfl joinPageViews_side hT (.inr (.inl ⟨rfl, rfl, rfl⟩))
    · exact eventFilterPlaced_of rfl joinPageViews_side hT
        (.inr (.inr ⟨hn, by simp [ht], rfl, rfl, rfl⟩))
  · -- page views: a sessions join, then the events
    rw [buildQuery_of_pageViews hr ht, joinOrLeftJoinEvents_eq]
    split_ifs with hn
    · exact eventFilterPlaced_of rfl joinSessions_side hT (.inr (.inl ⟨rfl, rfl, rfl⟩))
    · exact eventFilterPlaced_of rfl joinSessions_side hT
        (.inr (.inr ⟨hn, by simp [ht], rfl, rfl, rfl⟩))
  · -- events: the outer query reads sessions and left joins events
    rw [buildQuery_of_events hr ht]
    exact eventFilterPlaced_of rfl (by simp) hT (.inr (.inl ⟨rfl, rfl, rfl⟩))

/-! ## The filters of the sub-queries -/

section Children

variable {f : Filter} {fields groupBy orderBy fieldsImported : List Field} {fromImported : String}

/-- Every sub-query of the tree comes from one of the constructors. -/
theorem mem_buildQuery_children {c : QueryBuilder}
    (h : c ∈ (f.buildQuery fields groupBy orderBy fieldsImported fromImported).children) :
    c ∈ (f.joinSessions .events fields).toList ∨ c ∈ (f.joinSessions .pageViews fields).toList ∨
      c ∈ (f.joinPageViews fields).toList ∨ c ∈ (f.joinEvents fields).toList ∨
      c = f.leftJoinEvents fields ∨ c ∈ (f.joinUniqueVisitorsByPeriod fields).toList := by
  by_cases hr : f.EventsRoot fields
  · rw [buildQuery_of_eventsRoot hr] at h
    simp only [children, rootBuilder_joinSecond, rootBuilder_leftJoin, Option.toList_none,
      List.append_nil, List.mem_append] at h
    rcases h with h | h <;> simp [h]
  cases ht : f.table fields
  · rw [buildQuery_of_sessions hr ht, joinOrLeftJoinEvents_eq] at h
    split_ifs at h <;> simp only [children, List.mem_append] at h <;> rcases h with ((h | h) | h) | h <;>
      simp_all
  · rw [buildQuery_of_pageViews hr ht, joinOrLeftJoinEvents_eq] at h
    split_ifs at h <;> simp only [children, List.mem_append] at h <;> rcases h with ((h | h) | h) | h <;>
      simp_all
  · rw [buildQuery_of_events hr ht] at h
    simp [children] at h
    rcases h with h | h <;> simp [h]

/-- **The sub-queries.**  Every sub-query has no sub-queries of its own and works on
the caller's filter without `Sort`; the inner join of events also drops `Path` and
`AnyPath`, the left join drops the event predicates instead, and the
conversion-rate sub-query keeps only the time range and the period options. -/
theorem buildQuery_child_filter {c : QueryBuilder}
    (h : c ∈ (f.buildQuery fields groupBy orderBy fieldsImported fromImported).children) :
    c.children = [] ∧
      (c.filter = { f with sort := [] } ∨ c.filter = { f.clearDims [.path, .anyPath] with sort := [] } ∨
        c.filter = { f.clearDims [.eventName, .eventMetaKey] with eventMeta := .empty, sort := [] } ∨
        c.filter = f.crFilter) := by
  rcases mem_buildQuery_children h with h | h | h | h | rfl | h
  · exact ⟨(joinSessions_spec h).2.2.2, .inl (joinSessions_spec h).2.2.1⟩
  · exact ⟨(joinSessions_spec h).2.2.2, .inl (joinSessions_spec h).2.2.1⟩
  · exact ⟨(joinPageViews_spec h).2.2.2, .inl (joinPageViews_spec h).2.2.1⟩
  · exact ⟨(joinEvents_spec h).2.2.2, .inr (.inl (joinEvents_spec h).2.2.1)⟩
  · exact ⟨leftJoinEvents_spec.2.2.2, .inr (.inr (.inl leftJoinEvents_spec.2.2.1))⟩
  · exact ⟨(joinUniqueVisitorsByPeriod_spec h).2.2.2, .inr (.inr (.inr (joinUniqueVisitorsByPeriod_spec h).2.2.1))⟩

end Children

/-- The left join of events keeps the path predicates that the inner join drops: with
`Path` `/foo`, a negated event name puts `/foo` into the left-joined events
sub-query, and the same name without `!` gives an inner join without it. -/
theorem buildQuery_leftJoin_keeps_path :
    let f : Filter := { dims := fun d => if d = .path then ["/foo"] else if d = .eventName then ["!event"] else [] }
    let g : Filter := { dims := fun d => if d = .path then ["/foo"] else if d = .eventName then ["event"] else [] }
    (f.buildQuery [.path, .other "visitors"] [] [] [] "").leftJoin.map (·.filter.dims .path) = some ["/foo"] ∧
      (g.buildQuery [.path, .other "visitors"] [] [] [] "").joinSecond.map (·.filter.dims .path) = some [] := by
  decide

end Filter

end Pirsch
