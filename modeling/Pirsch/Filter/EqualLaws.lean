import Pirsch.Filter.Equal

/-!
# `Equal` as an equivalence, and calls in a row

`Equal` sorts both filters' lists in place before it compares them, so a caller
that compares filters again and again changes them between the calls.  This
file shows that nothing `Equal` can see is changed.

* `equal_result_iff_sameFilter` restates what `Equal` compares as a relation,
  `SameFilter`: the scalar fields of `simpleCmp`, every list-valued field as a
  multiset, `Search` and `Sort` after their stable sorts, and the pairs of the
  two maps.  `maps.Equal` compares the pairs because the keys of a Go map are
  distinct (`mapsEqual_iff_perm`).
* So `Equal` is an equivalence on filters (`equal_equivalence`).
* Its in-place sorts leave each filter the same to `SameFilter`, since sorting
  a sorted list by the same comparator changes nothing (`sortFunc_sortFunc`).
  A pool of filters under any sequence of calls, `a.Equal(a)` included, keeps
  every later result as it was before the first call (`equalRun_results`).
-/

namespace Pirsch

/-! ## Maps and scalar fields -/

namespace StrMap

/-- In a list with distinct keys, a key is looked up to a value exactly when the
pair is in the list. -/
theorem lookup_eq_some_iff_mem {l : List (String × String)} (h : (l.map Prod.fst).Nodup)
    {k v : String} : l.lookup k = some v ↔ (k, v) ∈ l := by
  induction l with
  | nil => simp
  | cons e es ih =>
      obtain ⟨k', v'⟩ := e
      rw [List.map_cons, List.nodup_cons] at h
      by_cases hk : k = k'
      · subst hk
        simp only [List.lookup_cons_self, Option.some.injEq, List.mem_cons, Prod.mk.injEq, true_and]
        exact ⟨fun he => .inl he.symm, fun he => he.elim Eq.symm
          fun hm => absurd (List.mem_map_of_mem Prod.fst hm) h.1⟩
      · have hb : (k == k') = false := by simpa using hk
        simp [List.lookup_cons, hb, hk, ih h.2]

end StrMap

namespace Filter

/-- `maps.Equal` holds exactly when the two maps hold the same pairs. -/
theorem mapsEqual_iff_perm {m₁ m₂ : StrMap} :
    mapsEqual m₁ m₂ = true ↔ List.Perm m₁.entries m₂.entries := by
  have hmem : ∀ e : String × String, m₂.lookup e.1 = some e.2 ↔ e ∈ m₂.entries := fun e =>
    StrMap.lookup_eq_some_iff_mem m₂.nodupKeys
  simp only [mapsEqual, StrMap.len, Bool.and_eq_true, beq_iff_eq, List.all_eq_true, hmem]
  constructor
  · rintro ⟨hl, hs⟩
    exact (List.subperm_of_subset (m₁.nodupKeys.of_map _) hs).perm_of_length_le hl.ge
  · exact fun hp => ⟨hp.length_eq, fun e he => hp.subset he⟩

/-- The values `simpleCmp` compares. -/
def simpleKey (f : Filter) :=
  (f.clientID, Location.string f.timezone, f.from.ns, f.to.ns, f.importedUntil.ns, f.period,
    f.platform, f.visitorID, f.sessionID, f.offset, f.limit, f.customMetricKey, f.customMetricType,
    f.includeTime, f.includeTitle, f.includeTimeOnPage, f.includeCR, f.maxTimeOnPageSeconds, f.sample)

theorem simpleCmp_iff {a b : Filter} : simpleCmp a b = true ↔ simpleKey a = simpleKey b := by
  simp only [simpleCmp, simpleKey, Bool.and_eq_true, beq_iff_eq, decide_eq_true_eq, Time.equal_iff,
    Prod.mk.injEq, and_assoc]

/-! ## The relation `Equal` computes -/

/-- What `Equal` sees of two filters. -/
structure SameFilter (a b : Filter) : Prop where
  scalars : simpleKey a = simpleKey b
  dims : ∀ d, List.Perm (a.dims d) (b.dims d)
  search : sortFunc searchCmp a.search = sortFunc searchCmp b.search
  sort : sortFunc sortCmp a.sort = sortFunc sortCmp b.sort
  tags : List.Perm a.tags.entries b.tags.entries
  eventMeta : List.Perm a.eventMeta.entries b.eventMeta.entries

namespace SameFilter

variable {a b c : Filter}

protected theorem refl (a : Filter) : SameFilter a a :=
  ⟨rfl, fun _ => .refl _, rfl, rfl, .refl _, .refl _⟩

protected theorem symm (h : SameFilter a b) : SameFilter b a :=
  ⟨h.scalars.symm, fun d => (h.dims d).symm, h.search.symm, h.sort.symm, h.tags.symm, h.eventMeta.symm⟩

protected theorem trans (h₁ : SameFilter a b) (h₂ : SameFilter b c) : SameFilter a c :=
  ⟨h₁.scalars.trans h₂.scalars, fun d => (h₁.dims d).trans (h₂.dims d), h₁.search.trans h₂.search,
    h₁.sort.trans h₂.sort, h₁.tags.trans h₂.tags, h₁.eventMeta.trans h₂.eventMeta⟩

end SameFilter

section Equivalence

variable {a b a' b' : Filter}

theorem equal_result_iff_sameFilter : (equal a b).result = true ↔ SameFilter a b := by
  rw [equal_result_iff, simpleCmp_iff, mapsEqual_iff_perm, mapsEqual_iff_perm]
  exact ⟨fun ⟨h₁, h₂, h₃, h₄, h₅, h₆⟩ => ⟨h₁, h₂, h₃, h₄, h₅, h₆⟩,
    fun ⟨h₁, h₂, h₃, h₄, h₅, h₆⟩ => ⟨h₁, h₂, h₃, h₄, h₅, h₆⟩⟩

theorem equal_equivalence : Equivalence fun a b : Filter => (equal a b).result = true where
  refl a := equal_result_iff_sameFilter.mpr (.refl a)
  symm h := equal_result_iff_sameFilter.mpr (equal_result_iff_sameFilter.mp h).symm
  trans h₁ h₂ := equal_result_iff_sameFilter.mpr
    ((equal_result_iff_sameFilter.mp h₁).trans (equal_result_iff_sameFilter.mp h₂))

theorem equal_result_congr (ha : SameFilter a' a) (hb : SameFilter b' b) :
    (equal a' b').result = (equal a b).result := by
  rw [Bool.eq_iff_iff, equal_result_iff_sameFilter, equal_result_iff_sameFilter]
  exact ⟨fun h => ha.symm.trans (h.trans hb), fun h => ha.trans (h.trans hb.symm)⟩

end Equivalence

/-! ## What the in-place sorts change -/

theorem descendingBy_le_iff {α : Type} (key : α → String) (a b : α) :
    descendingBy key a b ≤ 0 ↔ (key b).data ≤ (key a).data := by
  unfold descendingBy
  split_ifs with h₁ h₂
  · simp [h₁]
  · exact iff_of_true (by decide) (le_of_lt h₂)
  · refine iff_of_false (by decide) fun hle => ?_
    rcases hle.lt_or_eq with hlt | heq
    · exact h₂ hlt
    · exact h₁ (String.toList_inj.mp heq.symm)

/-- Sorting by a `descendingBy` comparator twice sorts once. -/
theorem sortFunc_sortFunc {α : Type} (key : α → String) (l : List α) :
    sortFunc (descendingBy key) (sortFunc (descendingBy key) l) = sortFunc (descendingBy key) l := by
  have : IsTotal α fun a b => descendingBy key a b ≤ 0 :=
    ⟨fun a b => by simp only [descendingBy_le_iff]; exact le_total _ _⟩
  have : IsTrans α fun a b => descendingBy key a b ≤ 0 :=
    ⟨fun a b c h₁ h₂ => by rw [descendingBy_le_iff] at *; exact le_trans h₂ h₁⟩
  exact (List.sorted_insertionSort _ l).insertionSort_eq

section Outputs

variable {a b : Filter}

/-- Whatever `Equal` sorted in place sorts back to the same list. -/
theorem equalRest_sorted :
    sortFunc searchCmp (equalRest a b).filter.search = sortFunc searchCmp a.search ∧
      sortFunc searchCmp (equalRest a b).other.search = sortFunc searchCmp b.search ∧
      sortFunc sortCmp (equalRest a b).filter.sort = sortFunc sortCmp a.sort ∧
      sortFunc sortCmp (equalRest a b).other.sort = sortFunc sortCmp b.sort := by
  unfold equalRest searchCmp sortCmp
  dsimp only
  split_ifs <;> simp only [sortFunc_sortFunc, and_self]

theorem equal_sorted :
    sortFunc searchCmp (equal a b).filter.search = sortFunc searchCmp a.search ∧
      sortFunc searchCmp (equal a b).other.search = sortFunc searchCmp b.search ∧
      sortFunc sortCmp (equal a b).filter.sort = sortFunc sortCmp a.sort ∧
      sortFunc sortCmp (equal a b).other.sort = sortFunc sortCmp b.sort := by
  obtain ⟨hs, hs', ho, ho', -⟩ := @equalDims_search_sort a b equalOrder
  unfold equal
  dsimp only
  split_ifs
  · rw [← hs, ← hs', ← ho, ← ho']; exact equalRest_sorted
  · rw [hs, hs', ho, ho']; exact ⟨rfl, rfl, rfl, rfl⟩
  · exact ⟨rfl, rfl, rfl, rfl⟩

/-- A filter reordered as `Equal` reorders it looks the same to `Equal`. -/
theorem Reordered.sameFilter {g f : Filter} (h : Reordered g f)
    (hs : sortFunc searchCmp g.search = sortFunc searchCmp f.search)
    (ho : sortFunc sortCmp g.sort = sortFunc sortCmp f.sort) : SameFilter g f where
  scalars := by rw [h.eq]; rfl
  dims := h.dims
  search := hs
  sort := ho
  tags := by rw [h.eq]
  eventMeta := by rw [h.eq]

/-- `Equal` leaves both filters as `Equal` sees them. -/
theorem equal_sameFilter : SameFilter (equal a b).filter a ∧ SameFilter (equal a b).other b :=
  have hs := @equal_sorted a b
  ⟨equal_reordered.1.sameFilter hs.1 hs.2.2.1, equal_reordered.2.sameFilter hs.2.1 hs.2.2.2⟩

end Outputs

/-! ## Calls in a row -/

/-- `filter.Equal(other)` between the filters at addresses `i` and `j` of a pool:
the result, and the pool with both filters as the call leaves them. -/
def equalStep (σ : Nat → Filter) (i j : Nat) : Bool × (Nat → Filter) :=
  let r := equal (σ i) (σ j)
  (r.result, Function.update (Function.update σ i r.filter) j r.other)

/-- Calls of `Equal` one after another on a pool: their results and the pool they
leave. -/
def equalRun : List (Nat × Nat) → (Nat → Filter) → List Bool × (Nat → Filter)
  | [], σ => ([], σ)
  | (i, j) :: calls, σ =>
      let s := equalStep σ i j
      let r := equalRun calls s.2
      (s.1 :: r.1, r.2)

section Run

variable {σ σ₀ : Nat → Filter}

/-- The step lemma: on a pool `Equal` sees as `σ₀`, a call returns what it returns
on `σ₀` and leaves a pool `Equal` sees as `σ₀`. -/
theorem equalStep_sameFilter (h : ∀ k, SameFilter (σ k) (σ₀ k)) (i j : Nat) :
    (equalStep σ i j).1 = (equal (σ₀ i) (σ₀ j)).result ∧
      ∀ k, SameFilter ((equalStep σ i j).2 k) (σ₀ k) := by
  refine ⟨equal_result_congr (h i) (h j), fun k => ?_⟩
  obtain ⟨hf, ho⟩ := @equal_sameFilter (σ i) (σ j)
  simp only [equalStep]
  by_cases hkj : k = j
  · subst hkj; rw [Function.update_same]; exact ho.trans (h k)
  rw [Function.update_noteq hkj]
  by_cases hki : k = i
  · subst hki; rw [Function.update_same]; exact hf.trans (h k)
  rw [Function.update_noteq hki]; exact h k

theorem equalRun_sameFilter (calls : List (Nat × Nat)) (h : ∀ k, SameFilter (σ k) (σ₀ k)) :
    (equalRun calls σ).1 = calls.map (fun c => (equal (σ₀ c.1) (σ₀ c.2)).result) ∧
      ∀ k, SameFilter ((equalRun calls σ).2 k) (σ₀ k) := by
  induction calls generalizing σ with
  | nil => exact ⟨rfl, h⟩
  | cons c calls ih =>
      obtain ⟨hr, hs⟩ := equalStep_sameFilter h c.1 c.2
      obtain ⟨ih₁, ih₂⟩ := ih hs
      exact ⟨by simp only [equalRun, List.map_cons, hr, ih₁], ih₂⟩

end Run

/-- **Comparisons in a row.**  Whatever `Equal` calls are made, in any order, between
the filters of a pool, aliased calls `a.Equal(a)` included, each returns what it
returns on the filters as they were before the first call, and the pool is left as
`Equal` sees it: the in-place sorts never change a later comparison. -/
theorem equalRun_results (calls : List (Nat × Nat)) (σ : Nat → Filter) :
    (equalRun calls σ).1 = calls.map (fun c => (equal (σ c.1) (σ c.2)).result) ∧
      ∀ k, SameFilter ((equalRun calls σ).2 k) (σ k) :=
  equalRun_sameFilter calls fun k => .refl (σ k)

end Filter

end Pirsch
