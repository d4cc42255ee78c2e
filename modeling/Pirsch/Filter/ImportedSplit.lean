import Pirsch.Filter.Validate

/-!
# The imported/live split of `validate`

When `ImportedUntil` is set, `validate` cuts the requested range in two: the
days before `ImportedUntil` are read from the imported tables, over
`[importedFrom, importedTo]`, and the rest from the live tables, over
`[From, To]`.  Both ranges are read here at the granularity of UTC days, which
is the granularity of the imported tables.

The main result, `validate_splits_days`, says that for any relative order of
`From`, `To`, `ImportedUntil` and today no day of the requested range
`R = [F₀, min(T₀, tomorrow)]` is lost or read twice, and that the live range
stays inside `R`; a range that is not split is read live over `R` exactly.  The imported range is **not** cut at tomorrow: the
clamp of line 580 runs after the split and only moves `To`.  So the imported
range stays inside `[F₀, min(T₀, ImportedUntil − 1 day)]`, which leaves `R`
when both `T₀` and `ImportedUntil` lie after tomorrow
(`validate_imported_leaves_range`).

`F₀` and `T₀` are `From` and `To` after truncation and swap, the values
`normalizeRange` computes.  They are taken on or after 0001-01-02 UTC: a time
within the first day of year 1 truncates to the zero time, which the query
builder reads as "not set".
-/

namespace Pirsch.Filter

/-- Day `d` lies in the range from `a` to `b`, read by UTC days. -/
def InDays (d : Int) (a b : Time) : Prop := a.dayOf ≤ d ∧ d ≤ b.dayOf

instance (d : Int) (a b : Time) : Decidable (InDays d a b) :=
  inferInstanceAs (Decidable (a.dayOf ≤ d ∧ d ≤ b.dayOf))

section Split

variable {today : Int} {f : Filter}

/-- Where the three time steps put the imported and live ranges, when the range
starts before a set `ImportedUntil`, in terms of `F₀`, `T₀` and `ImportedUntil`. -/
theorem validateTimes_of_before (today : Int) (hT : ¬(normalizeRange f).to.IsZero)
    (hIU : ¬f.importedUntil.IsZero) (hF : (normalizeRange f).from.ns < f.importedUntil.ns) :
    (validateTimes today f).importedFrom = (normalizeRange f).from ∧
    (validateTimes today f).to.dayOf = min (normalizeRange f).to.dayOf (today + 1) ∧
    (if (normalizeRange f).to.ns < f.importedUntil.ns then
      (validateTimes today f).from = (normalizeRange f).from ∧
        (validateTimes today f).importedTo = (normalizeRange f).to
    else
      (validateTimes today f).from = f.importedUntil ∧
        (validateTimes today f).importedTo = f.importedUntil.add (-day)) := by
  have hto : (validateTimes today f).to.dayOf = min (normalizeRange f).to.dayOf (today + 1) := by
    simp only [validateTimes]
    rw [clampTo_to_dayOf (by simpa using hT), splitImported_to]
  have hIU' : ¬(normalizeRange f).importedUntil.IsZero := by simpa using hIU
  have hF' : (normalizeRange f).from.Before (normalizeRange f).importedUntil := by simpa using hF
  split
  · next hT' =>
      have hs := splitImported_of_before hIU' hF' (by simpa using hT')
      refine ⟨?_, hto, ?_, ?_⟩ <;> simp only [validateTimes, hs, clampTo_from, clampTo_importedFrom,
        clampTo_importedTo]
  · next hT' =>
      have hs := splitImported_of_reaches hIU' hF' (by simpa using hT')
      refine ⟨?_, hto, ?_, ?_⟩ <;> simp only [validateTimes, hs, clampTo_from, clampTo_importedFrom,
        clampTo_importedTo, normalizeRange_importedUntil]

/-- A range that starts at or after `ImportedUntil`, or an unset `ImportedUntil`, is
not split: the live range is `[F₀, min(T₀, tomorrow)]` and the imported range is
left as it was. -/
theorem validate_of_not_before (today : Int) (hT : ¬(normalizeRange f).to.IsZero)
    (h : ¬(¬f.importedUntil.IsZero ∧ (normalizeRange f).from.ns < f.importedUntil.ns)) :
    (validate today f).from = (normalizeRange f).from ∧
    (validate today f).to.dayOf = min (normalizeRange f).to.dayOf (today + 1) ∧
    (validate today f).importedFrom = f.importedFrom ∧
    (validate today f).importedTo = f.importedTo := by
  have hs := splitImported_of_not (f := normalizeRange f) (by simpa using h)
  refine ⟨?_, ?_, ?_, ?_⟩ <;> simp only [validate_from, validate_to, validate_importedFrom,
    validate_importedTo, validateTimes, hs, clampTo_from, clampTo_importedFrom,
    clampTo_importedTo, normalizeRange_importedFrom, normalizeRange_importedTo]
  exact clampTo_to_dayOf hT

/-- **The imported/live split.**  For `From` and `To` on or after 0001-01-02 after
truncation and an `ImportedUntil` at a UTC midnight (or zero), whatever the order
of `From`, `To`, `ImportedUntil` and today:

* every day of `R` on or after `ImportedUntil` is in the live range, and the live
  range holds no day outside `R`;
* a range starting at or after `ImportedUntil` is not split: `From` is `F₀`, `To`
  falls on the last day of `R`, and `importedFrom` and `importedTo` are unchanged;
* otherwise both are set, every day of `R` before `ImportedUntil` is in the
  imported range, the two ranges share no day when the range reaches
  `ImportedUntil`, and the imported range holds no day outside
  `[F₀, min(T₀, ImportedUntil − 1 day)]`. -/
theorem validate_splits_days (today : Int) (f : Filter)
    (hF : day ≤ (normalizeRange f).from.ns) (hT : day ≤ (normalizeRange f).to.ns)
    (hIU : f.importedUntil.ns % day = 0) :
    let F₀ := (normalizeRange f).from
    let T₀ := (normalizeRange f).to
    let IU := f.importedUntil
    let v := validate today f
    let R := fun d => F₀.dayOf ≤ d ∧ d ≤ min T₀.dayOf (today + 1)
    (∀ d, R d → IU.dayOf ≤ d → InDays d v.from v.to) ∧
    (∀ d, InDays d v.from v.to → R d) ∧
    (IU.ns ≤ F₀.ns → v.from = F₀ ∧ v.to.dayOf = min T₀.dayOf (today + 1) ∧
      v.importedFrom = f.importedFrom ∧ v.importedTo = f.importedTo) ∧
    (F₀.ns < IU.ns →
      ¬v.importedFrom.IsZero ∧ ¬v.importedTo.IsZero ∧
      (∀ d, R d → d < IU.dayOf → InDays d v.importedFrom v.importedTo) ∧
      (IU.ns ≤ T₀.ns → ∀ d, ¬(InDays d v.importedFrom v.importedTo ∧ InDays d v.from v.to)) ∧
      (∀ d, InDays d v.importedFrom v.importedTo →
        F₀.dayOf ≤ d ∧ d ≤ min T₀.dayOf (IU.dayOf - 1))) := by
  dsimp only
  have hday := day_pos
  have hT0 : ¬(normalizeRange f).to.IsZero := by simp only [Time.isZero_iff]; omega
  have hle := normalizeRange_from_le_to hT0
  by_cases hlt : (normalizeRange f).from.ns < f.importedUntil.ns
  case neg =>
    -- not split: the live range is `R`
    obtain ⟨hfr, hto, hiF, hiT⟩ := validate_of_not_before today hT0 fun h => hlt h.2
    have hlive : ∀ d, InDays d (validate today f).from (validate today f).to ↔
        (normalizeRange f).from.dayOf ≤ d ∧ d ≤ min (normalizeRange f).to.dayOf (today + 1) :=
      fun d => by rw [InDays, hfr, hto]
    exact ⟨fun d hR _ => (hlive d).2 hR, fun d hd => (hlive d).1 hd, fun _ => ⟨hfr, hto, hiF, hiT⟩,
      fun h => absurd h hlt⟩
  case pos =>
    have hIU0 : ¬f.importedUntil.IsZero := by simp only [Time.isZero_iff]; omega
    have hFd := Time.dayOf_lt_of_lt_date hIU hlt
    obtain ⟨hiF, hto, hcase⟩ := validateTimes_of_before today hT0 hIU0 hlt
    simp only [InDays, validate_from, validate_to, validate_importedFrom, validate_importedTo,
      hiF, hto, Time.isZero_iff]
    split at hcase
    · next hT' =>
        -- the whole range is imported
        obtain ⟨hfr, hito⟩ := hcase
        have hTd := Time.dayOf_lt_of_lt_date hIU hT'
        simp only [hfr, hito]
        refine ⟨fun d hR h => by omega, fun d hd => hd, fun h => absurd h (by omega), fun _ =>
          ⟨by omega, by omega, fun d hR _ => ⟨hR.1, by omega⟩, fun h => by omega,
            fun d hd => ⟨hd.1, by omega⟩⟩⟩
    · next hT' =>
        -- the range reaches `ImportedUntil`: the live range starts there
        obtain ⟨hfr, hito⟩ := hcase
        have hTd : f.importedUntil.dayOf ≤ (normalizeRange f).to.dayOf :=
          Time.dayOf_le_dayOf (by omega)
        have hmid : day ≤ f.importedUntil.ns - day := by unfold day at *; omega
        simp only [hfr, hito, Time.dayOf_add_neg_day, Time.add_ns]
        refine ⟨fun d hR h => ⟨h, hR.2⟩, fun d hd => ⟨by omega, hd.2⟩, fun h => absurd h (by omega),
          fun _ => ⟨by omega, by omega, fun d hR h => ⟨hR.1, by omega⟩, fun _ d hd => by omega,
            fun d hd => ⟨hd.1, by omega⟩⟩⟩

/-- `validate_splits_days` applies to the range of `validate_imported_leaves_range`. -/
theorem validate_splits_days_example :
    let f : Filter :=
      { «from» := ⟨738880 * day, 0⟩
        «to» := ⟨738905 * day, 0⟩
        importedUntil := ⟨738895 * day, 0⟩ }
    day ≤ (normalizeRange f).from.ns ∧ day ≤ (normalizeRange f).to.ns ∧
      f.importedUntil.ns % day = 0 ∧
      ¬(validate 738885 f).importedFrom.IsZero ∧ ¬(validate 738885 f).importedTo.IsZero :=
  have h := (validate_splits_days 738885 _ (by decide) (by decide) (by decide)).2.2.2 (by decide)
  ⟨by decide, by decide, by decide, h.1, h.2.1⟩

/-- The imported range is not cut at tomorrow.  On 2024-01-01 (day 738885), a
range from 2023-12-27 to 2024-01-21 with `ImportedUntil` 2024-01-11 keeps
2024-01-06 in the imported range, though `R` ends at tomorrow, 2024-01-02. -/
theorem validate_imported_leaves_range :
    let f : Filter :=
      { «from» := ⟨738880 * day, 0⟩
        «to» := ⟨738905 * day, 0⟩
        importedUntil := ⟨738895 * day, 0⟩ }
    ¬∀ d, InDays d (validate 738885 f).importedFrom (validate 738885 f).importedTo →
      (normalizeRange f).from.dayOf ≤ d ∧ d ≤ min (normalizeRange f).to.dayOf (738885 + 1) :=
  fun h => absurd (h 738890 (by decide)) (by decide)

end Split

end Pirsch.Filter
