import Pirsch.Filter.Validated

/-!
# When `validate` is idempotent

`validate` is re-run on filters it has already validated: by `getFilter` when a
caller hands the same filter in twice, and by `getPreviousPeriod`.  It is a
no-op there as long as the validated `From` is not after tomorrow and
`ImportedUntil` is zero or a UTC date not after tomorrow
(`validate_validate`); `validate_twice_future_range` shows the first condition
cannot be dropped.

The proof follows the three parts of `validate`.  `validateDefaults` and
`validateFields` are idempotent outright and commute with `validateTimes`.  For
`validateTimes`, `RangeValidated` is the invariant it establishes
(`rangeValidated_validateTimes`) and on which it is the identity
(`validateTimes_of_rangeValidated`).
-/

namespace Pirsch.Filter

/-! ## Normal times -/

theorem validateTime_of_isDate {t : Time} (h : t.IsDate) (b : Bool) : validateTime b t = t := by
  unfold validateTime
  split_ifs
  · rfl
  · exact Time.inUTC_isDate h
  · exact toDate_of_isDate h

theorem validateTime_validateTime (b : Bool) (t : Time) :
    validateTime b (validateTime b t) = validateTime b t := by
  by_cases h0 : t.IsZero
  · simp only [validateTime, h0, if_true]
  cases b
  · have : validateTime false t = toDate t := by rw [validateTime, if_neg h0]; rfl
    rw [this]; exact validateTime_of_isDate (toDate_isDate t) _
  · have : validateTime true t = t.inUTC := by rw [validateTime, if_neg h0]; rfl
    rw [this, validateTime, if_neg (show ¬t.inUTC.IsZero from h0), if_pos rfl]
    exact Time.inUTC_of_offset (Time.inUTC_offset t)

theorem tomorrow_isDate (today : Int) : (tomorrow today).IsDate := by
  simpa [tomorrow] using Time.isDate_add (Time.today_isDate today) 1

section Range

variable {today : Int} {f : Filter}

theorem normalizeRange_from_normal :
    validateTime f.includeTime (normalizeRange f).from = (normalizeRange f).from := by
  rw [normalizeRange_from]; split_ifs <;> exact validateTime_validateTime _ _

theorem normalizeRange_to_normal :
    validateTime f.includeTime (normalizeRange f).to = (normalizeRange f).to := by
  rw [normalizeRange_to]; split_ifs <;> exact validateTime_validateTime _ _

/-- `normalizeRange` leaves alone an ordered range of normal times. -/
theorem normalizeRange_of_normal (hF : validateTime f.includeTime f.from = f.from)
    (hT : validateTime f.includeTime f.to = f.to) (hs : ¬(¬f.to.IsZero ∧ f.from.After f.to)) :
    normalizeRange f = f := by
  rw [normalizeRange_eq, normalizeRange_from, normalizeRange_to, hF, hT, if_neg hs, if_neg hs]

/-- `To` after `validateTimes` is `T₀` or tomorrow: normal either way. -/
theorem validateTimes_to_normal :
    validateTime f.includeTime (validateTimes today f).to = (validateTimes today f).to := by
  simp only [validateTimes, clampTo_to, splitImported_to]
  split_ifs
  · exact validateTime_of_isDate (tomorrow_isDate today) _
  · exact normalizeRange_to_normal

/-- `From` after `validateTimes` is `F₀`, or `ImportedUntil` when the range reaches it. -/
theorem validateTimes_from_normal (hIU : f.importedUntil.IsZero ∨ f.importedUntil.IsDate) :
    validateTime f.includeTime (validateTimes today f).from = (validateTimes today f).from := by
  simp only [validateTimes, clampTo_from, splitImported_from, normalizeRange_importedUntil]
  split_ifs with hs
  · exact validateTime_of_isDate (hIU.resolve_left hs.1) _
  · exact normalizeRange_from_normal

theorem validateTimes_importedFrom : (validateTimes today f).importedFrom =
    if ¬f.importedUntil.IsZero ∧ (normalizeRange f).from.Before f.importedUntil
    then (normalizeRange f).from else f.importedFrom := by
  simp only [validateTimes, clampTo_importedFrom, splitImported_importedFrom,
    normalizeRange_importedUntil, normalizeRange_importedFrom]

/-- A set `To` after `validateTimes` is not after tomorrow. -/
theorem validateTimes_to_le (h : ¬(validateTimes today f).to.IsZero) :
    (validateTimes today f).to.ns ≤ (tomorrow today).ns := by
  simp only [validateTimes, clampTo_to, splitImported_to] at h ⊢
  split_ifs at h ⊢ with hc
  · exact le_refl _
  · simpa using fun h0 => hc ⟨h, h0⟩

/-- The time fields as `validateTimes` leaves them on day `today`. -/
structure RangeValidated (today : Int) (f : Filter) : Prop where
  /-- `From` is already truncated, or in UTC. -/
  from_normal : validateTime f.includeTime f.from = f.from
  /-- `To` is already truncated, or in UTC. -/
  to_normal : validateTime f.includeTime f.to = f.to
  /-- A set `To` is not before `From`. -/
  from_le_to : ¬f.to.IsZero → f.from.ns ≤ f.to.ns
  /-- `To` is not after tomorrow. -/
  to_not_after : ¬(¬f.to.IsZero ∧ f.to.After (tomorrow today))
  /-- A range that starts before `ImportedUntil` is already wholly imported. -/
  imported : ¬f.importedUntil.IsZero → f.from.Before f.importedUntil →
    f.to.Before f.importedUntil ∧ f.importedFrom = f.from ∧ f.importedTo = f.to

/-- On a filter whose time fields are validated, `validateTimes` changes nothing. -/
theorem validateTimes_of_rangeValidated (h : RangeValidated today f) :
    validateTimes today f = f := by
  have hn : normalizeRange f = f :=
    normalizeRange_of_normal h.from_normal h.to_normal fun ⟨h0, h1⟩ =>
      absurd (h.from_le_to h0) (by simpa using h1)
  have hs : splitImported f = f := by
    by_cases hc : ¬f.importedUntil.IsZero ∧ f.from.Before f.importedUntil
    · obtain ⟨hb, hiF, hiT⟩ := h.imported hc.1 hc.2
      calc splitImported f = { f with importedFrom := f.from, importedTo := f.to } :=
            splitImported_of_before hc.1 hc.2 hb
        _ = { f with importedFrom := f.importedFrom, importedTo := f.importedTo } := by
            rw [hiF, hiT]
    · exact splitImported_of_not hc
  have hc : clampTo today f = f := by
    rw [clampTo_eq, clampTo_to, if_neg h.to_not_after]
  rw [validateTimes, hn, hs, hc]

/-- `validateTimes` establishes `RangeValidated`, when the `From` it leaves is not
after tomorrow and `ImportedUntil` is zero or a UTC date not after tomorrow. -/
theorem rangeValidated_validateTimes
    (hF : (validateTimes today f).from.ns ≤ (tomorrow today).ns)
    (hIU : f.importedUntil.IsZero ∨ (f.importedUntil.IsDate ∧ f.importedUntil.ns ≤ (tomorrow today).ns)) :
    RangeValidated today (validateTimes today f) := by
  have hb : (validateTimes today f).includeTime = f.includeTime := by rw [validateTimes_eq]
  have hIU' : (validateTimes today f).importedUntil = f.importedUntil := by rw [validateTimes_eq]
  refine ⟨?_, ?_, fun h0 => validateTimes_from_le_to h0 hF, ?_, ?_⟩
  · rw [hb]; exact validateTimes_from_normal (hIU.imp_right And.left)
  · rw [hb]; exact validateTimes_to_normal
  · exact fun ⟨h0, h1⟩ => absurd (validateTimes_to_le h0) (by simpa using h1)
  · -- only the wholly imported case starts before `ImportedUntil`
    rw [hIU']
    intro h0 hlt
    have hIU1 := (hIU.resolve_left h0).2
    have hF0 : (normalizeRange f).from.Before (normalizeRange f).importedUntil := by
      by_contra hn
      have : (validateTimes today f).from = (normalizeRange f).from := by
        simp only [validateTimes, clampTo_from, @splitImported_of_not (normalizeRange f)
          (fun h => hn h.2)]
      rw [this] at hlt; exact hn (by simpa using hlt)
    have h0' : ¬(normalizeRange f).importedUntil.IsZero := by simpa using h0
    by_cases hT0 : (normalizeRange f).to.Before (normalizeRange f).importedUntil
    · have hT1 : (normalizeRange f).to.ns ≤ (tomorrow today).ns := by
        simp only [Time.before_iff, normalizeRange_importedUntil] at hT0; omega
      have hclamp : ¬(¬(normalizeRange f).to.IsZero ∧ (normalizeRange f).to.After (tomorrow today)) :=
        fun h => absurd hT1 (by simpa using h.2)
      simp only [validateTimes, splitImported_of_before h0' hF0 hT0, clampTo_from, clampTo_importedFrom,
        clampTo_importedTo, clampTo_to, if_neg hclamp, and_self, and_true]
      simpa using hT0
    · have : (validateTimes today f).from = f.importedUntil := by
        simp [validateTimes, splitImported_of_reaches h0' hF0 hT0]
      rw [this] at hlt; exact absurd hlt (lt_irrefl _)

theorem validateTimes_validateTimes
    (hF : (validateTimes today f).from.ns ≤ (tomorrow today).ns)
    (hIU : f.importedUntil.IsZero ∨ (f.importedUntil.IsDate ∧ f.importedUntil.ns ≤ (tomorrow today).ns)) :
    validateTimes today (validateTimes today f) = validateTimes today f :=
  validateTimes_of_rangeValidated (rangeValidated_validateTimes hF hIU)

end Range

/-! ## The other fields -/

section Fields

variable (today : Int) (f : Filter)

theorem clampNegative_clampNegative (n : Int) : clampNegative (clampNegative n) = clampNegative n := by
  unfold clampNegative; split_ifs <;> omega

theorem validCustomMetricType_validCustomMetricType (t : String) :
    validCustomMetricType (validCustomMetricType t) = validCustomMetricType t := by
  unfold validCustomMetricType; split_ifs <;> simp_all

theorem validWeekdayMode_validWeekdayMode (m : Int) :
    validWeekdayMode (validWeekdayMode m) = validWeekdayMode m := by
  unfold validWeekdayMode weekdayMonday weekdaySunday; split_ifs <;> omega

theorem trimSearch_trimSearch : trimSearch ∘ trimSearch = trimSearch := by
  funext s; simp only [Function.comp_apply, trimSearch, trimSpace_trimSpace]

/-- A second pass over the lists finds nothing to drop: the lists it deduplicates
are already free of duplicates, and `Path` is set after the first pass exactly
when it was set before. -/
theorem dedupDims_clearPathPattern_twice (dims : Dimension → List String) :
    dedupDims (clearPathPattern (dedupDims (clearPathPattern dims))) =
      dedupDims (clearPathPattern dims) := by
  have hc := (removeDuplicates_nodup (dims .country)).filter validCountry
  have hpath : dedupDims (clearPathPattern dims) .path = removeDuplicates (dims .path) := by
    rw [dedupDims_clearPathPattern]; rfl
  funext d
  rw [dedupDims_clearPathPattern (dedupDims (clearPathPattern dims)) d,
    dedupDims_clearPathPattern dims d, hpath]
  simp only [ne_eq, removeDuplicates_eq_nil]
  split_ifs with h₁ h₂ h₃
  · subst h₁
    rw [dedupDims_clearPathPattern, if_pos rfl, removeDuplicates_of_nodup hc, List.filter_filter]
    simp only [Bool.and_self]
  · subst h₂; rw [dedupDims_clearPathPattern]; rfl
  · rfl
  · exact removeDuplicates_of_nodup (removeDuplicates_nodup _)

theorem validateFields_eq :
    validateFields f = { f with
      dims := dedupDims (clearPathPattern f.dims)
      search := f.search.map trimSearch
      offset := clampNegative f.offset
      limit := clampNegative f.limit
      customMetricType := validCustomMetricType f.customMetricType
      weekdayMode := validWeekdayMode f.weekdayMode } := rfl

theorem validateFields_validateFields : validateFields (validateFields f) = validateFields f := by
  simp only [validateFields_eq, dedupDims_clearPathPattern_twice, List.map_map, trimSearch_trimSearch,
    clampNegative_clampNegative, validCustomMetricType_validCustomMetricType,
    validWeekdayMode_validWeekdayMode]

theorem validateDefaults_validateDefaults : validateDefaults (validateDefaults f) = validateDefaults f :=
  rfl

/-- The options and lists are independent of the defaults and of the time range. -/
theorem validateDefaults_validateFields :
    validateDefaults (validateFields f) = validateFields (validateDefaults f) := rfl

theorem validateTimes_validateFields :
    validateTimes today (validateFields f) = validateFields (validateTimes today f) := by
  rw [@validateTimes_congr today f (validateFields f) rfl rfl rfl rfl rfl rfl, validateTimes_eq today f]
  rfl

end Fields

/-! ## `validate` -/

/-- `validate` is a no-op on its own output, when the `From` it leaves is not after
tomorrow and `ImportedUntil` is zero or a UTC date not after tomorrow. -/
theorem validate_validate {today : Int} {f : Filter}
    (hF : (validate today f).from.ns ≤ (tomorrow today).ns)
    (hIU : f.importedUntil.IsZero ∨ (f.importedUntil.IsDate ∧ f.importedUntil.ns ≤ (tomorrow today).ns)) :
    validate today (validate today f) = validate today f := by
  rw [validate_from] at hF
  simp only [validate, validateTimes_validateFields, validateTimes_validateDefaults,
    validateTimes_validateTimes hF hIU, ← validateDefaults_validateFields, validateFields_validateFields,
    validateDefaults_validateDefaults]

end Pirsch.Filter
