import Pirsch.Filter.Validate

/-!
# What a validated filter looks like

Three facts about the output of `validate`, and where they stop holding.

* **The lists.**  `validate_dims` gives every list-valued field after
  `validate`: `Country` is deduplicated and filtered, `PathPattern` is dropped
  when `Path` is set, `AnyPath` is left as it was, and every other list is
  passed through `removeDuplicates`.  So every list but `AnyPath` is free of
  duplicates (`validate_dims_nodup`), while `AnyPath` keeps its duplicates
  (`validate_anyPath_keeps_duplicates`).
* **The range.**  The swap of line 560 orders `From` and `To`, and moving `From`
  to `ImportedUntil` keeps the order; but the clamp of line 580 runs last and
  moves only `To`.  So `From ≤ To` holds exactly as long as `From` is not after
  tomorrow (`validate_from_le_to`).  A range lying wholly after tomorrow comes
  out inverted (`validate_future_range_inverted`), and a second `validate` swaps
  it back and clamps again, so `validate` is not idempotent there
  (`validate_twice_future_range`).
* **Emptiness.**  `validate` sets no predicate and clears one only by dropping
  invalid country codes, so `Empty()` changes only when every code of
  `Country` is invalid (`validate_empty_iff`).
-/

namespace Pirsch.Filter

/-! ## The list-valued fields -/

section Dims

variable (today : Int) (f : Filter)

@[simp] theorem validateDefaults_dims : (validateDefaults f).dims = f.dims := rfl

theorem clearPathPattern_apply (dims : Dimension → List String) (d : Dimension) :
    clearPathPattern dims d =
      if d = .pathPattern ∧ dims .path ≠ [] ∧ dims .pathPattern ≠ [] then [] else dims d := by
  unfold clearPathPattern
  split_ifs with h₁ h₂ h₂
  · rw [h₂.1, Function.update_same]
  · rw [Function.update_noteq fun h => h₂ ⟨h, h₁⟩]
  · exact absurd ⟨h₂.2.1, h₂.2.2⟩ h₁
  · rfl

theorem mem_dedupedDimensions {d : Dimension} :
    d ∈ dedupedDimensions ↔ d ≠ .anyPath ∧ d ≠ .country := by
  cases d <;> decide

/-- Every list-valued field after lines 584–645. -/
theorem dedupDims_clearPathPattern (dims : Dimension → List String) (d : Dimension) :
    dedupDims (clearPathPattern dims) d =
      if d = .country then (removeDuplicates (dims .country)).filter validCountry
      else if d = .anyPath then dims .anyPath
      else if d = .pathPattern ∧ dims .path ≠ [] then []
      else removeDuplicates (dims d) := by
  simp only [dedupDims, clearPathPattern_apply, mem_dedupedDimensions]
  by_cases hc : d = .country
  · subst hc; simp
  by_cases ha : d = .anyPath
  · subst ha; simp
  by_cases hp : d = .pathPattern
  · subst hp
    by_cases h₁ : dims .path = [] <;> by_cases h₂ : dims .pathPattern = [] <;>
      simp [h₁, h₂, removeDuplicates]
  · simp [hc, ha, hp]

@[simp] theorem validateFields_dims : (validateFields f).dims = dedupDims (clearPathPattern f.dims) :=
  rfl

/-- Every list-valued field after `validate`. -/
theorem validate_dims (d : Dimension) :
    (validate today f).dims d =
      if d = .country then (removeDuplicates (f.dims .country)).filter validCountry
      else if d = .anyPath then f.dims .anyPath
      else if d = .pathPattern ∧ f.dims .path ≠ [] then []
      else removeDuplicates (f.dims d) := by
  rw [validate, validateFields_dims, validateTimes_dims, validateDefaults_dims,
    dedupDims_clearPathPattern]

/-- After `validate` no list-valued field but `AnyPath` holds a string twice. -/
theorem validate_dims_nodup {d : Dimension} (h : d ≠ .anyPath) :
    ((validate today f).dims d).Nodup := by
  rw [validate_dims]
  split_ifs
  · exact (removeDuplicates_nodup _).filter _
  · exact List.nodup_nil
  · exact removeDuplicates_nodup _

end Dims

/-- `AnyPath` is not deduplicated: `["/", "/"]` stays as it is. -/
theorem validate_anyPath_keeps_duplicates :
    (validate 738885 { dims := fun d => if d = .anyPath then ["/", "/"] else [] }).dims .anyPath =
      ["/", "/"] := by
  rw [validate_dims]; rfl

/-! ## The range -/

section Range

variable {today : Int} {f : Filter}

theorem splitImported_from_le_to (h : f.from.ns ≤ f.to.ns) :
    (splitImported f).from.ns ≤ (splitImported f).to.ns := by
  unfold splitImported
  split_ifs with h₁ h₂
  · exact h
  · simp only [Time.before_iff, not_lt] at h₂; exact h₂
  · exact h

theorem validateTimes_from_le_to (h : ¬(validateTimes today f).to.IsZero)
    (ht : (validateTimes today f).from.ns ≤ (tomorrow today).ns) :
    (validateTimes today f).from.ns ≤ (validateTimes today f).to.ns := by
  simp only [validateTimes] at h ht ⊢
  unfold clampTo at h ht ⊢
  split_ifs at h ht ⊢
  · exact ht
  · -- `To` was not clamped: it is `T₀`, which the swap put after `F₀`
    have hT : ¬(normalizeRange f).to.IsZero := by simpa using h
    exact splitImported_from_le_to (normalizeRange_from_le_to hT)

/-- After `validate`, a set `To` is not before `From`, as long as `From` is not
after tomorrow. -/
theorem validate_from_le_to (h : ¬(validate today f).to.IsZero)
    (ht : (validate today f).from.ns ≤ (tomorrow today).ns) :
    (validate today f).from.ns ≤ (validate today f).to.ns := by
  simp only [validate_from, validate_to] at h ht ⊢
  exact validateTimes_from_le_to h ht

end Range

/-- On 2024-01-01 (day 738885), the range 2024-01-03 to 2024-01-04 comes out of
`validate` with `To` clamped to tomorrow, 2024-01-02, before `From`. -/
theorem validate_future_range_inverted :
    let f : Filter := { «from» := ⟨738887 * day, 0⟩, «to» := ⟨738888 * day, 0⟩ }
    ¬(validate 738885 f).from.IsZero ∧ ¬(validate 738885 f).to.IsZero ∧
      (validate 738885 f).to.ns < (validate 738885 f).from.ns := by
  decide

/-- On the same range a second `validate` swaps `From` and `To` back and clamps
again: `From` moves from 2024-01-03 to 2024-01-02. -/
theorem validate_twice_future_range :
    let f : Filter := { «from» := ⟨738887 * day, 0⟩, «to» := ⟨738888 * day, 0⟩ }
    (validate 738885 (validate 738885 f)).from ≠ (validate 738885 f).from := by
  decide

/-! ## Emptiness -/

section Emptiness

variable (today : Int) (f : Filter)

/-- `validate` leaves the scalar predicates alone and trims the search inputs. -/
theorem validate_predicates :
    (validate today f).platform = f.platform ∧ (validate today f).tags = f.tags ∧
      (validate today f).eventMeta = f.eventMeta ∧ (validate today f).visitorID = f.visitorID ∧
      (validate today f).sessionID = f.sessionID ∧ (validate today f).search = f.search.map trimSearch := by
  rw [validate, validateTimes_eq]
  exact ⟨rfl, rfl, rfl, rfl, rfl, rfl⟩

/-- After `validate` every list is empty exactly when it was, but for the country
codes it drops. -/
theorem validate_dims_eq_nil_iff :
    (∀ d, (validate today f).dims d = []) ↔
      ∀ d, (f.setDim .country ((f.dims .country).filter validCountry)).dims d = [] := by
  have hc : (removeDuplicates (f.dims .country)).filter validCountry = [] ↔
      (f.dims .country).filter validCountry = [] := by
    rw [removeDuplicates_filter, removeDuplicates_eq_nil]
  constructor
  · intro h d
    by_cases hd : d = .country
    · subst hd
      rw [setDim_dims_self, ← hc]
      simpa only [validate_dims, if_true] using h .country
    · rw [setDim_dims_of_ne _ _ hd]
      have hv := h d
      rw [validate_dims, if_neg hd] at hv
      split_ifs at hv with ha hp
      · exact ha ▸ hv
      · have hpath := h .path
        rw [validate_dims] at hpath
        simp only [reduceCtorEq, if_false, false_and, removeDuplicates_eq_nil] at hpath
        exact absurd hpath hp.2
      · exact removeDuplicates_eq_nil.mp hv
  · intro h d
    have hv := h d
    rw [validate_dims]
    split_ifs with hd ha hp
    · subst hd
      rw [setDim_dims_self] at hv
      exact hc.mpr hv
    · rwa [setDim_dims_of_ne _ _ hd, ha] at hv
    · rfl
    · rwa [setDim_dims_of_ne _ _ hd, ← removeDuplicates_eq_nil] at hv

/-- **`validate` empties a filter only by dropping country codes.**  A validated
filter is `Empty` exactly when the filter was, once its invalid country codes
are dropped: `validate` never sets a predicate, and clears one only when every
code of `Country` is invalid.  `getFilter` validates the caller's filter in
place, so the caller's `Empty()` can change from `false` to `true` this way. -/
theorem validate_empty_iff :
    (validate today f).Empty ↔ (f.setDim .country ((f.dims .country).filter validCountry)).Empty := by
  obtain ⟨hp, ht, he, hv, hs, hse⟩ := validate_predicates today f
  simp only [Empty, validate_dims_eq_nil_iff, hp, ht, he, hv, hs, hse, List.map_eq_nil_iff]
  rfl

end Emptiness

end Pirsch.Filter
