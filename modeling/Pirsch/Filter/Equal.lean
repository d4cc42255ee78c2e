import Pirsch.Filter.Basic
import Mathlib.Data.List.Sort
import Mathlib.Data.String.Basic

/-!
# `Filter.Equal`

`Equal` (lines 256–533 of `filter.go`) compares nineteen scalar fields, then
each list-valued field after sorting it **in place** on both sides, then
`Search` and `Sort` after sorting them in place by a comparator, and last the
two maps.  It returns at the first difference.

`equal` returns the result together with both filters as the call leaves them.
Two things follow from the model:

* **What is compared.**  `equal_result_iff`: the scalar fields but
  `WeekdayMode` (and `Ctx`, `FunnelStep` and the internal fields), every
  list-valued field as a multiset, and `Search` and `Sort` only after a sort
  by `Input`, respectively `Direction`, alone.  Entries that tie on that key
  keep their order, so two `Search` lists holding the same entries in another
  order can compare unequal.
* **What is changed.**  `equal_reordered`: the call leaves both filters as they
  were up to the order of their lists, and it does reorder them, `Sort`
  included, whose order is the `ORDER BY` priority of every later query.

## Modelling choices

* Go compares strings bytewise; on UTF-8 that is the lexicographic order of
  their characters, `s.data`.
* `slices.Sort` on strings has one result, the sorted permutation.
  `slices.SortFunc` runs pdqsort, which sorts up to twelve elements by insertion
  sort, a stable sort; `sortFunc` is that stable sort for every length.  On a
  longer slice with ties Go may order the tied entries otherwise.
-/

namespace Pirsch.Filter

/-! ## Sorting -/

/-- `slices.Sort` on a `[]string`. -/
def sortStrings (l : List String) : List String := l.insertionSort fun a b => a.data ≤ b.data

/-- `slices.SortFunc(l, cmp)`: the insertion sort of pdqsort, which moves an
element left past every element it compares strictly below. -/
def sortFunc {α : Type} (cmp : α → α → Int) (l : List α) : List α :=
  l.insertionSort fun a b => cmp a b ≤ 0

/-- The comparators of lines 484–494 and 503–513: descending by one string key,
`0` on a tie. -/
def descendingBy {α : Type} (key : α → String) (a b : α) : Int :=
  if key a = key b then 0 else if (key a).data > (key b).data then -1 else 1

/-- The comparator of lines 484–494, on `Input` alone. -/
def searchCmp : Search → Search → Int := descendingBy Search.input

/-- The comparator of lines 503–513, on `Direction` alone. -/
def sortCmp : SortBy → SortBy → Int := descendingBy SortBy.direction

theorem sortStrings_perm (l : List String) : List.Perm (sortStrings l) l :=
  List.perm_insertionSort _ l

/-- Sorted strings are equal exactly when the lists hold the same strings. -/
theorem sortStrings_eq_iff {l₁ l₂ : List String} :
    sortStrings l₁ = sortStrings l₂ ↔ List.Perm l₁ l₂ := by
  constructor
  · intro h
    exact (sortStrings_perm l₁).symm.trans (h ▸ sortStrings_perm l₂)
  · intro h
    have : IsAntisymm String fun a b => a.data ≤ b.data :=
      ⟨fun a b h₁ h₂ => String.toList_inj.mp (le_antisymm h₁ h₂)⟩
    have : IsTotal String fun a b => a.data ≤ b.data := ⟨fun a b => le_total a.data b.data⟩
    have : IsTrans String fun a b => a.data ≤ b.data := ⟨fun _ _ _ => le_trans⟩
    exact List.eq_of_perm_of_sorted ((sortStrings_perm l₁).trans (h.trans (sortStrings_perm l₂).symm))
      (List.sorted_insertionSort _ l₁) (List.sorted_insertionSort _ l₂)

theorem sortFunc_perm {α : Type} (cmp : α → α → Int) (l : List α) : List.Perm (sortFunc cmp l) l :=
  List.perm_insertionSort _ l

/-! ## The comparison -/

/-- `maps.Equal(m₁, m₂)`. -/
def mapsEqual (m₁ m₂ : StrMap) : Bool :=
  m₁.len == m₂.len && m₁.entries.all fun e => m₂.lookup e.1 == some e.2

/-- `simpleCmp`, lines 257–276. -/
def simpleCmp (a b : Filter) : Bool :=
  a.clientID == b.clientID && Location.string a.timezone == Location.string b.timezone &&
    decide (a.from.Equal b.from) && decide (a.to.Equal b.to) &&
    decide (a.importedUntil.Equal b.importedUntil) && a.period == b.period &&
    a.platform == b.platform && a.visitorID == b.visitorID && a.sessionID == b.sessionID &&
    a.offset == b.offset && a.limit == b.limit && a.customMetricKey == b.customMetricKey &&
    a.customMetricType == b.customMetricType && a.includeTime == b.includeTime &&
    a.includeTitle == b.includeTitle && a.includeTimeOnPage == b.includeTimeOnPage &&
    a.includeCR == b.includeCR && a.maxTimeOnPageSeconds == b.maxTimeOnPageSeconds &&
    a.sample == b.sample

/-- The list-valued fields in the order lines 282–481 compare them; `Tag` is
compared twice. -/
def equalOrder : List Dimension :=
  [.hostname, .path, .anyPath, .entryPath, .exitPath, .pathPattern, .language, .country,
    .region, .city, .referrer, .referrerName, .channel, .os, .osVersion, .browser,
    .browserVersion, .screenClass, .utmSource, .utmMedium, .utmCampaign, .utmContent,
    .utmTerm, .tag, .tag, .eventName, .eventMetaKey]

/-- What `filter.Equal(other)` returns, and both filters as it leaves them. -/
structure EqualResult where
  result : Bool
  filter : Filter
  other : Filter

/-- `slices.Sort` of one list-valued field, in place. -/
def sortDim (f : Filter) (d : Dimension) : Filter := f.setDim d (sortStrings (f.dims d))

/-- Lines 282–481: sort both lists of each field in turn, and stop at the first
that differs. -/
def equalDims (a b : Filter) : List Dimension → EqualResult
  | [] => ⟨true, a, b⟩
  | d :: ds =>
      if (a.sortDim d).dims d = (b.sortDim d).dims d then equalDims (a.sortDim d) (b.sortDim d) ds
      else ⟨false, a.sortDim d, b.sortDim d⟩

/-- Lines 484–531: `Search`, then `Sort`, each sorted in place, then the maps. -/
def equalRest (a b : Filter) : EqualResult :=
  let a := { a with search := sortFunc searchCmp a.search }
  let b := { b with search := sortFunc searchCmp b.search }
  if a.search ≠ b.search then ⟨false, a, b⟩
  else
    let a := { a with sort := sortFunc sortCmp a.sort }
    let b := { b with sort := sortFunc sortCmp b.sort }
    if a.sort ≠ b.sort then ⟨false, a, b⟩
    else ⟨mapsEqual a.tags b.tags && mapsEqual a.eventMeta b.eventMeta, a, b⟩

/-- `filter.Equal(other)`. -/
def equal (a b : Filter) : EqualResult :=
  if simpleCmp a b then
    let r := equalDims a b equalOrder
    if r.result then equalRest r.filter r.other else r
  else ⟨false, a, b⟩

/-! ## What is compared -/

section Result

variable {a b : Filter}

@[simp] theorem sortDim_search (f : Filter) (d : Dimension) : (f.sortDim d).search = f.search := rfl
@[simp] theorem sortDim_sort (f : Filter) (d : Dimension) : (f.sortDim d).sort = f.sort := rfl
@[simp] theorem sortDim_tags (f : Filter) (d : Dimension) : (f.sortDim d).tags = f.tags := rfl
@[simp] theorem sortDim_eventMeta (f : Filter) (d : Dimension) :
    (f.sortDim d).eventMeta = f.eventMeta := rfl

/-- Sorting a field reorders that field and nothing else. -/
theorem sortDim_dims_perm (f : Filter) (d e : Dimension) : List.Perm ((f.sortDim d).dims e) (f.dims e) := by
  by_cases h : e = d
  · subst h; simpa [sortDim] using sortStrings_perm (f.dims e)
  · simp [sortDim, h]

/-- The loop of lines 282–481 finds no difference exactly when every field it
visits holds the same strings on both sides. -/
theorem equalDims_result (ds : List Dimension) :
    (equalDims a b ds).result = true ↔ ∀ d ∈ ds, List.Perm (a.dims d) (b.dims d) := by
  induction ds generalizing a b with
  | nil => simp [equalDims]
  | cons d ds ih =>
      have hd : (a.sortDim d).dims d = (b.sortDim d).dims d ↔ List.Perm (a.dims d) (b.dims d) := by
        simpa [sortDim] using sortStrings_eq_iff
      have hperm : ∀ e, List.Perm ((a.sortDim d).dims e) ((b.sortDim d).dims e) ↔
          List.Perm (a.dims e) (b.dims e) := fun e =>
        have ha := sortDim_dims_perm a d e
        have hb := sortDim_dims_perm b d e
        ⟨fun h => ha.symm.trans (h.trans hb), fun h => ha.trans (h.trans hb.symm)⟩
      unfold equalDims
      split_ifs with h
      · simp only [ih, hperm, List.forall_mem_cons, hd.mp h, true_and]
      · simp only [Bool.false_eq_true, false_iff, List.forall_mem_cons, not_and]
        exact fun h' => absurd (hd.mpr h') h

/-- The loop leaves `Search`, `Sort` and the maps alone. -/
theorem equalDims_search_sort (ds : List Dimension) :
    (equalDims a b ds).filter.search = a.search ∧ (equalDims a b ds).other.search = b.search ∧
      (equalDims a b ds).filter.sort = a.sort ∧ (equalDims a b ds).other.sort = b.sort ∧
      (equalDims a b ds).filter.tags = a.tags ∧ (equalDims a b ds).other.tags = b.tags ∧
      (equalDims a b ds).filter.eventMeta = a.eventMeta ∧
      (equalDims a b ds).other.eventMeta = b.eventMeta := by
  induction ds generalizing a b with
  | nil => simp [equalDims]
  | cons d ds ih =>
      unfold equalDims
      split_ifs
      · simpa using ih
      · simp

theorem equalRest_result :
    (equalRest a b).result = true ↔
      sortFunc searchCmp a.search = sortFunc searchCmp b.search ∧
      sortFunc sortCmp a.sort = sortFunc sortCmp b.sort ∧
      mapsEqual a.tags b.tags = true ∧ mapsEqual a.eventMeta b.eventMeta = true := by
  unfold equalRest
  dsimp only
  split_ifs with h₁ h₂ <;> simp_all

theorem mem_equalOrder (d : Dimension) : d ∈ equalOrder := by
  cases d <;> decide

/-- **What `Equal` compares.**  The scalar fields of `simpleCmp`, every
list-valued field as a multiset, `Search` and `Sort` after a stable sort on
`Input`, respectively `Direction`, and the two maps. -/
theorem equal_result_iff :
    (equal a b).result = true ↔
      simpleCmp a b = true ∧ (∀ d, List.Perm (a.dims d) (b.dims d)) ∧
      sortFunc searchCmp a.search = sortFunc searchCmp b.search ∧
      sortFunc sortCmp a.sort = sortFunc sortCmp b.sort ∧
      mapsEqual a.tags b.tags = true ∧ mapsEqual a.eventMeta b.eventMeta = true := by
  obtain ⟨hs, hs', ho, ho', ht, ht', he, he'⟩ := @equalDims_search_sort a b equalOrder
  unfold equal
  dsimp only
  split_ifs with hc hd
  · rw [equalRest_result, hs, hs', ho, ho', ht, ht', he, he']
    simp only [hc, true_and, iff_and_self]
    exact fun _ d => (equalDims_result equalOrder).mp hd d (mem_equalOrder d)
  · exact iff_of_false hd fun ⟨_, h, _⟩ => hd ((equalDims_result equalOrder).mpr fun d _ => h d)
  · simp [hc]

end Result

/-- `WeekdayMode` is not compared, and two `Search` lists holding the same entries
compare unequal when entries that tie on `Input` come in another order. -/
theorem equal_ignores_weekdayMode_and_orders_search_ties :
    (equal { weekdayMode := 1 } { weekdayMode := 2 }).result = true ∧
      let a : Filter := { search := [⟨.path, "x"⟩, ⟨.entryPath, "x"⟩] }
      let b : Filter := { search := [⟨.entryPath, "x"⟩, ⟨.path, "x"⟩] }
      List.Perm a.search b.search ∧ (equal a b).result = false := by
  decide

/-! ## What is changed -/

/-- `g` is `f` with some of its lists reordered. -/
structure Reordered (g f : Filter) : Prop where
  eq : g = { f with dims := g.dims, search := g.search, sort := g.sort }
  dims : ∀ d, List.Perm (g.dims d) (f.dims d)
  search : List.Perm g.search f.search
  sort : List.Perm g.sort f.sort

namespace Reordered

variable {f g h : Filter}

theorem refl (f : Filter) : Reordered f f :=
  ⟨rfl, fun _ => List.Perm.refl _, List.Perm.refl _, List.Perm.refl _⟩

theorem trans (h₁ : Reordered h g) (h₂ : Reordered g f) : Reordered h f where
  eq := h₁.eq.trans (by rw [h₂.eq])
  dims d := (h₁.dims d).trans (h₂.dims d)
  search := h₁.search.trans h₂.search
  sort := h₁.sort.trans h₂.sort

end Reordered

theorem reordered_lists (f : Filter) {s : List Search} {t : List SortBy} (hs : List.Perm s f.search)
    (ht : List.Perm t f.sort) : Reordered { f with search := s, sort := t } f :=
  ⟨rfl, fun _ => List.Perm.refl _, hs, ht⟩

theorem sortDim_reordered (f : Filter) (d : Dimension) : Reordered (f.sortDim d) f :=
  ⟨rfl, sortDim_dims_perm f d, List.Perm.refl _, List.Perm.refl _⟩

section Changed

variable {a b : Filter}

theorem equalDims_reordered (ds : List Dimension) :
    Reordered (equalDims a b ds).filter a ∧ Reordered (equalDims a b ds).other b := by
  induction ds generalizing a b with
  | nil => exact ⟨.refl a, .refl b⟩
  | cons d ds ih =>
      unfold equalDims
      split_ifs
      · exact ⟨ih.1.trans (sortDim_reordered a d), ih.2.trans (sortDim_reordered b d)⟩
      · exact ⟨sortDim_reordered a d, sortDim_reordered b d⟩

theorem equalRest_reordered : Reordered (equalRest a b).filter a ∧ Reordered (equalRest a b).other b := by
  unfold equalRest
  dsimp only
  split_ifs
  · exact ⟨reordered_lists a (sortFunc_perm _ _) (List.Perm.refl _),
      reordered_lists b (sortFunc_perm _ _) (List.Perm.refl _)⟩
  all_goals exact ⟨reordered_lists a (sortFunc_perm _ _) (sortFunc_perm _ _),
      reordered_lists b (sortFunc_perm _ _) (sortFunc_perm _ _)⟩

/-- **What `Equal` changes.**  Both filters come out of the call as they went in
up to the order of their lists. -/
theorem equal_reordered : Reordered (equal a b).filter a ∧ Reordered (equal a b).other b := by
  have hd := @equalDims_reordered a b equalOrder
  unfold equal
  dsimp only
  split_ifs
  · exact ⟨equalRest_reordered.1.trans hd.1, equalRest_reordered.2.trans hd.2⟩
  · exact hd
  · exact ⟨.refl a, .refl b⟩

end Changed

/-- The lists are reordered in the caller's filter: comparing a filter with itself
sorts `Path` and moves the `DESC` entry of `Sort` first. -/
theorem equal_reorders_sort :
    let a : Filter :=
      { dims := fun d => if d = .path then ["/b", "/a"] else []
        sort := [⟨.other "visitors", "ASC"⟩, ⟨.path, "DESC"⟩] }
    (equal a a).filter.dims .path = ["/a", "/b"] ∧
      (equal a a).filter.sort = [⟨.path, "DESC"⟩, ⟨.other "visitors", "ASC"⟩] := by
  decide

end Pirsch.Filter
