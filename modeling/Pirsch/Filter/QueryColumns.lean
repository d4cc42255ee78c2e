import Pirsch.Filter.QueryTree

/-!
# Columns and correlation keys of the query tree

The store decodes the rows of a query by position, in the order of the fields
it asked for, and every sub-query is joined to the outer query on
`(visitor_id, session_id)`.  The tree `buildQuery` builds fits both.

* The outer query selects exactly the requested fields, in their order
  (`buildQuery_selects_fields`).  On the branch where `table` chose events but
  the outer query reads sessions, `FieldPath` is excluded from the fields; no
  field list holding it reaches that branch (`path_not_mem_of_table_events`).
* Every sub-query has no sub-queries of its own and is sampled and time-bounded
  as the outer query; every join reads another table than the outer query and
  selects and groups by the two keys first (`buildQuery_correlated`).

The sessions join is what lets a predicate on the entry or exit page be
evaluated when the outer query reads page views or events.  It is attached,
with the column the predicate needs, whenever `EntryPath` or `ExitPath` is
filtered or requested, and it carries the column of a `Search` on them when it
is attached (`buildQuery_session_join`); but a `Search` alone attaches none
(`buildQuery_entryPath_search_without_join`).
-/

namespace Pirsch

namespace QueryBuilder

/-- A sub-query that can be correlated with the outer query: it selects
`visitor_id` and `session_id` first and groups by both first. -/
structure SessionKeyed (c : QueryBuilder) : Prop where
  fields_prefix : [Field.visitorID, .sessionID] <+: c.fields
  groupBy_prefix : [Field.visitorID, .sessionID] <+: c.groupBy

/-- What bounds the rows a builder reads: its `Sample`, and the client, time zone
and time range of its filter. -/
def scope (q : QueryBuilder) : Nat × Int × Option Location × Time × Time :=
  (q.sample, q.filter.clientID, q.filter.timezone, q.filter.from, q.filter.to)

/-- The sub-queries of `q` can be correlated with it. -/
structure Correlated (q : QueryBuilder) : Prop where
  /-- No sub-query has sub-queries of its own. -/
  depth_one : ∀ c ∈ q.children, c.children = []
  /-- Every sub-query is sampled and time-bounded as `q`. -/
  same_scope : ∀ c ∈ q.children, c.scope = q.scope
  /-- The joins read another table than `q` and are keyed by session. -/
  keyed : ∀ c ∈ q.join.toList ++ q.joinSecond.toList ++ q.leftJoin.toList, c.from ≠ q.from ∧ c.SessionKeyed

end QueryBuilder

open QueryBuilder

namespace Filter

/-- The scope of every builder over `f`. -/
def scope (f : Filter) : Nat × Int × Option Location × Time × Time :=
  (f.sample, f.clientID, f.timezone, f.from, f.to)

/-! ## The columns of the outer query -/

section Columns

variable {f : Filter} {fields groupBy orderBy fieldsImported : List Field} {fromImported : String}

/-- A field list holding `FieldPath` makes `table` choose page views unless a custom
metric is set without tag fields, and then the outer query reads events. -/
theorem path_not_mem_of_table_events (h : ¬f.EventsRoot fields) (ht : f.table fields = .events) :
    Field.path ∉ fields := by
  intro hp
  unfold table at ht
  dsimp only at ht
  split_ifs at ht with h₁ h₂ h₃
  have hB : ¬(f.customMetricType = "" ∨ f.customMetricKey = "" ∨ fieldsContain fields .tagKey ∨
      fieldsContain fields .tagValue) := fun hB => h₁ ⟨by simp [fieldsContain, hp], hB, h₃.2⟩
  simp only [not_or] at hB
  exact h ⟨.inr (.inl hB.2.1), hB.2.2.1, hB.2.2.2⟩

/-- **The outer query selects the requested fields.**  On every branch of
`buildQuery` the outer query's fields are `fields`, in their order; on the branch
that excludes `FieldPath`, `fields` does not hold it. -/
theorem buildQuery_selects_fields (f : Filter) (fields groupBy orderBy fieldsImported : List Field)
    (fromImported : String) :
    (f.buildQuery fields groupBy orderBy fieldsImported fromImported).fields = fields ∧
      (¬f.EventsRoot fields ∧ f.table fields = .events → Field.path ∉ fields) := by
  refine ⟨?_, fun h => path_not_mem_of_table_events h.1 h.2⟩
  by_cases hr : f.EventsRoot fields
  · rw [buildQuery_of_eventsRoot hr]
  cases ht : f.table fields
  · rw [buildQuery_of_sessions hr ht, joinOrLeftJoinEvents_frame]
  · rw [buildQuery_of_pageViews hr ht, joinOrLeftJoinEvents_frame]
  · rw [buildQuery_of_events hr ht]
    have hp := path_not_mem_of_table_events hr ht
    exact List.filter_eq_self.mpr fun x hx => by
      simpa [fieldsContain] using fun h : x = .path => hp (h ▸ hx)

end Columns

/-! ## The sub-queries

One lemma per constructor: the sub-query is keyed by session and scoped as the
outer query. -/

section Constructors

variable {f : Filter} {fields : List Field} {t : Table} {c : QueryBuilder}

theorem joinSessions_correlates (h : c ∈ (f.joinSessions t fields).toList) :
    c.SessionKeyed ∧ c.scope = f.scope := by
  obtain rfl := eq_of_mem_toList_ite h; exact ⟨⟨by simp, by simp⟩, rfl⟩

theorem joinPageViews_correlates (h : c ∈ (f.joinPageViews fields).toList) :
    c.SessionKeyed ∧ c.scope = f.scope := by
  obtain rfl := eq_of_mem_toList_ite h; exact ⟨⟨by simp, by simp⟩, rfl⟩

theorem joinEvents_correlates (h : c ∈ (f.joinEvents fields).toList) :
    c.SessionKeyed ∧ c.scope = f.scope := by
  obtain rfl := eq_of_mem_toList_ite h; exact ⟨⟨by simp, by simp⟩, rfl⟩

theorem leftJoinEvents_correlates :
    (f.leftJoinEvents fields).SessionKeyed ∧ (f.leftJoinEvents fields).scope = f.scope :=
  ⟨⟨by simp [leftJoinEvents], by simp [leftJoinEvents]⟩, rfl⟩

/-- The conversion-rate sub-query is not a join on sessions, but it is scoped as the
outer query. -/
theorem joinUniqueVisitorsByPeriod_scope (h : c ∈ (f.joinUniqueVisitorsByPeriod fields).toList) :
    c.scope = f.scope := by
  obtain rfl := eq_of_mem_toList_ite h; rfl

end Constructors

/-! ## The tree -/

section Tree

variable {f : Filter} {fields groupBy orderBy fieldsImported : List Field} {fromImported : String}

theorem buildQuery_scope :
    (f.buildQuery fields groupBy orderBy fieldsImported fromImported).scope = f.scope := by
  by_cases hr : f.EventsRoot fields
  · rw [buildQuery_of_eventsRoot hr]; rfl
  cases ht : f.table fields
  · rw [buildQuery_of_sessions hr ht, joinOrLeftJoinEvents_frame]; rfl
  · rw [buildQuery_of_pageViews hr ht, joinOrLeftJoinEvents_frame]; rfl
  · rw [buildQuery_of_events hr ht]; rfl

theorem buildQuery_child_scope {c : QueryBuilder}
    (h : c ∈ (f.buildQuery fields groupBy orderBy fieldsImported fromImported).children) :
    c.scope = f.scope := by
  rcases mem_buildQuery_children h with h | h | h | h | rfl | h
  · exact (joinSessions_correlates h).2
  · exact (joinSessions_correlates h).2
  · exact (joinPageViews_correlates h).2
  · exact (joinEvents_correlates h).2
  · exact leftJoinEvents_correlates.2
  · exact joinUniqueVisitorsByPeriod_scope h

/-- The joins of each branch read another table than the outer query: sessions or
page views under page views or sessions, and events under anything but events. -/
theorem buildQuery_join_keyed {c : QueryBuilder}
    (h : c ∈ (f.buildQuery fields groupBy orderBy fieldsImported fromImported).join.toList ++
      (f.buildQuery fields groupBy orderBy fieldsImported fromImported).joinSecond.toList ++
      (f.buildQuery fields groupBy orderBy fieldsImported fromImported).leftJoin.toList) :
    c.from ≠ (f.buildQuery fields groupBy orderBy fieldsImported fromImported).from ∧ c.SessionKeyed := by
  have hL : (f.leftJoinEvents fields).from = .events ∧ (f.leftJoinEvents fields).SessionKeyed :=
    ⟨rfl, leftJoinEvents_correlates.1⟩
  rw [buildQuery_from]
  by_cases hr : f.EventsRoot fields
  · rw [if_pos hr]
    rw [buildQuery_of_eventsRoot hr] at h
    simp only [rootBuilder_joinSecond, rootBuilder_leftJoin, Option.toList_none, List.append_nil] at h
    exact ⟨by rw [(joinSessions_spec h).1]; decide, (joinSessions_correlates h).1⟩
  rw [if_neg hr]
  cases ht : f.table fields
  · -- sessions: a page-views join, then the events
    rw [buildQuery_of_sessions hr ht, joinOrLeftJoinEvents_eq] at h
    split_ifs at h <;> simp only [List.mem_append, Option.toList_some, Option.toList_none,
      List.mem_singleton, List.not_mem_nil, or_false, rootBuilder_joinSecond, rootBuilder_leftJoin] at h <;>
      rcases h with h | h
    · exact ⟨by rw [(joinPageViews_spec h).1]; decide, (joinPageViews_correlates h).1⟩
    · subst h; exact ⟨by rw [hL.1]; decide, hL.2⟩
    · exact ⟨by rw [(joinPageViews_spec h).1]; decide, (joinPageViews_correlates h).1⟩
    · exact ⟨by rw [(joinEvents_spec h).1]; decide, (joinEvents_correlates h).1⟩
  · -- page views: a sessions join, then the events
    rw [buildQuery_of_pageViews hr ht, joinOrLeftJoinEvents_eq] at h
    split_ifs at h <;> simp only [List.mem_append, Option.toList_some, Option.toList_none,
      List.mem_singleton, List.not_mem_nil, or_false, rootBuilder_joinSecond, rootBuilder_leftJoin] at h <;>
      rcases h with h | h
    · exact ⟨by rw [(joinSessions_spec h).1]; decide, (joinSessions_correlates h).1⟩
    · subst h; exact ⟨by rw [hL.1]; decide, hL.2⟩
    · exact ⟨by rw [(joinSessions_spec h).1]; decide, (joinSessions_correlates h).1⟩
    · exact ⟨by rw [(joinEvents_spec h).1]; decide, (joinEvents_correlates h).1⟩
  · -- events: the outer query reads sessions and left joins events
    rw [buildQuery_of_events hr ht] at h
    simp only [List.mem_append, Option.toList_some, Option.toList_none, List.mem_singleton,
      List.not_mem_nil, false_or, rootBuilder_join, rootBuilder_joinSecond] at h
    subst h; exact ⟨by rw [hL.1]; decide, hL.2⟩

/-- **The sub-queries correlate with the outer query.**  The tree `buildQuery`
builds has depth one; every sub-query carries the outer query's `Sample`,
client, time zone and time range; and every join reads another table than the
outer query and selects and groups by `visitor_id` and `session_id` first. -/
theorem buildQuery_correlated (f : Filter) (fields groupBy orderBy fieldsImported : List Field)
    (fromImported : String) :
    (f.buildQuery fields groupBy orderBy fieldsImported fromImported).Correlated where
  depth_one _ h := (buildQuery_child_filter h).1
  same_scope _ h := (buildQuery_child_scope h).trans buildQuery_scope.symm
  keyed _ h := buildQuery_join_keyed h

end Tree

/-! ## The sessions join -/

section Sessions

variable {f : Filter} {fields groupBy orderBy fieldsImported : List Field} {fromImported : String}
  {t : Table} {c : QueryBuilder}

/-- A filter or a request on `EntryPath` attaches a sessions join selecting it. -/
theorem joinSessions_entryPath (h : f.dims .entryPath ≠ [] ∨ fieldsContain fields .entryPath) :
    ∃ c ∈ (f.joinSessions t fields).toList, c.from = .sessions ∧ Field.entryPath ∈ c.fields := by
  have he : f.dims .entryPath ≠ [] ∨ fieldsContain fields .entryPath ∨ f.searchContains .entryPath :=
    h.elim .inl (.inr ∘ .inl)
  unfold joinSessions
  rw [if_pos (h.elim .inl (.inr ∘ .inr ∘ .inr ∘ .inr ∘ .inl))]
  exact ⟨_, List.mem_singleton_self _, rfl, by simp [he]⟩

/-- A filter or a request on `ExitPath` attaches a sessions join selecting it. -/
theorem joinSessions_exitPath (h : f.dims .exitPath ≠ [] ∨ fieldsContain fields .exitPath) :
    ∃ c ∈ (f.joinSessions t fields).toList, c.from = .sessions ∧ Field.exitPath ∈ c.fields := by
  have he : f.dims .exitPath ≠ [] ∨ fieldsContain fields .exitPath ∨ f.searchContains .exitPath :=
    h.elim .inl (.inr ∘ .inl)
  unfold joinSessions
  rw [if_pos (h.elim (.inr ∘ .inl) (.inr ∘ .inr ∘ .inr ∘ .inr ∘ .inr))]
  exact ⟨_, List.mem_singleton_self _, rfl, by simp [he]⟩

/-- A sessions join, when attached, selects the fields a `Search` needs. -/
theorem joinSessions_search (h : c ∈ (f.joinSessions t fields).toList) :
    (f.searchContains .entryPath → Field.entryPath ∈ c.fields) ∧
      (f.searchContains .exitPath → Field.exitPath ∈ c.fields) := by
  obtain rfl := eq_of_mem_toList_ite h
  exact ⟨fun hs => by simp [hs], fun hs => by simp [hs]⟩

/-- Under page views or events, the join is the sessions join. -/
theorem buildQuery_join_of_from
    (h : (f.buildQuery fields groupBy orderBy fieldsImported fromImported).from = .pageViews ∨
      (f.buildQuery fields groupBy orderBy fieldsImported fromImported).from = .events) :
    (f.buildQuery fields groupBy orderBy fieldsImported fromImported).join =
      f.joinSessions (f.buildQuery fields groupBy orderBy fieldsImported fromImported).from fields := by
  rw [buildQuery_from] at h ⊢
  by_cases hr : f.EventsRoot fields
  · rw [buildQuery_of_eventsRoot hr, if_pos hr]
  rw [if_neg hr] at h ⊢
  cases ht : f.table fields <;> rw [ht] at h
  · simp at h
  · rw [buildQuery_of_pageViews hr ht, joinOrLeftJoinEvents_frame]; rfl
  · simp at h

/-- **The sessions join under page views and events.**  When the outer query reads
page views or events, a filter or request on `EntryPath` (`ExitPath`) attaches a
sessions join selecting it, and an attached sessions join selects the fields of
every `Search` on them. -/
theorem buildQuery_session_join
    (h : (f.buildQuery fields groupBy orderBy fieldsImported fromImported).from = .pageViews ∨
      (f.buildQuery fields groupBy orderBy fieldsImported fromImported).from = .events) :
    let q := f.buildQuery fields groupBy orderBy fieldsImported fromImported
    (f.dims .entryPath ≠ [] ∨ fieldsContain fields .entryPath →
        ∃ c ∈ q.join.toList, c.from = .sessions ∧ Field.entryPath ∈ c.fields) ∧
      (f.dims .exitPath ≠ [] ∨ fieldsContain fields .exitPath →
        ∃ c ∈ q.join.toList, c.from = .sessions ∧ Field.exitPath ∈ c.fields) ∧
      ∀ c ∈ q.join.toList, (f.searchContains .entryPath → Field.entryPath ∈ c.fields) ∧
        (f.searchContains .exitPath → Field.exitPath ∈ c.fields) := by
  intro q
  rw [show q.join = _ from buildQuery_join_of_from h]
  exact ⟨joinSessions_entryPath, joinSessions_exitPath, fun _ hc => joinSessions_search hc⟩

end Sessions

/-- A `Search` on `EntryPath` alone attaches no sessions join: with `Path` `/` set the
outer query reads page views, and the `Search` entry is on `FieldEntryPath`, but
`joinSessions` tests `searchContains` only inside its outer condition. -/
theorem buildQuery_entryPath_search_without_join :
    let f : Filter := { dims := fun d => if d = .path then ["/"] else [], search := [⟨.entryPath, "/blog"⟩] }
    let q := f.buildQuery [.other "visitors"] [] [] [] ""
    q.from = .pageViews ∧ f.searchContains .entryPath ∧ q.join = none :=
  ⟨by decide, by decide, rfl⟩

end Filter

end Pirsch
