import Pirsch.Filter.Idempotence

/-!
# `Visitors.getPreviousPeriod`

`Growth` (`visitors.go`, lines 358–444) reads the statistics of a validated
filter, moves the filter to the previous period with `getPreviousPeriod`
(lines 530–565) and reads them again.  The current period is the effective
range `[S, E]`: `S` is `importedFrom` when that is set and before `From`, and
`E` is `To`.

* A one-instant range (`S = E`) moves back a week; when it is today, it ends
  now, a week ago, and `IncludeTime` is set.
* A range of at least a day moves back by its own length and ends a day
  before `S`; a shorter one moves back a day.
* When `ImportedUntil` is set, the moved filter is validated again, which
  splits it into its imported and live parts once more.

The main result, `getPreviousPeriod_validate`, says that on a validated
filter whose range lasts at least a day (every ordered date range does) the
new effective range has the same length and ends a day before `S`: for a
date range the days just before the current ones, for a time range a range
that leaves a gap of a day before `S`.  The re-validation keeps it: whatever
part of it `validate` moves to the imported tables, its effective range is
the one `getPreviousPeriod` computed (`validateTimes_of_normal_range`).

`getPreviousPeriod_keeps_filter` says what `Growth` compares: the previous
period differs from the current one in the range and `IncludeTime` only, so it
is read under the same predicates.

`util.Today()` and `time.Now()` read the clock; the model takes the day
`today` and the instant `now` as arguments.
-/

namespace Pirsch.Analyzer

open Filter

/-- `time.Hour * 24 * 7`. -/
def week : Int := 7 * day

/-- The start of the range the filter reads (lines 531–536): `importedFrom` when it
is set and before `From`. -/
def effectiveFrom (f : Filter) : Time :=
  if ¬f.importedFrom.IsZero ∧ f.importedFrom.Before f.from then f.importedFrom else f.from

/-- Lines 531–561: `From`, `To` and `IncludeTime` of the previous period. -/
def shiftRange (today : Int) (now : Time) (f : Filter) : Filter :=
  let «from» := effectiveFrom f
  if «from».Equal f.to then
    if f.to.Equal (Time.today today) then
      { f with «from» := «from».add (-week), «to» := now.inUTC.add (-week), includeTime := true }
    else { f with «from» := «from».add (-week), «to» := f.to.add (-week) }
  else
    let days := f.to.sub «from»
    if day ≤ days then
      let «to» := «from».add (-day)
      { f with «from» := «to».add (-days), «to» := «to» }
    else { f with «from» := «from».add (-day), «to» := f.to.add (-day) }

/-- `visitors.getPreviousPeriod(filter)`, on the day `today` at the instant `now`. -/
def getPreviousPeriod (today : Int) (now : Time) (f : Filter) : Filter :=
  if ¬f.importedUntil.IsZero then validate today (shiftRange today now f)
  else shiftRange today now f

/-! ## The effective range -/

section Effective

variable {today : Int} {f : Filter}

theorem effectiveFrom_of_not (h : ¬(¬f.importedFrom.IsZero ∧ f.importedFrom.Before f.from)) :
    effectiveFrom f = f.from := if_neg h

/-- A set `importedFrom` is never before the effective start. -/
theorem effectiveFrom_le_importedFrom (h : ¬f.importedFrom.IsZero) :
    (effectiveFrom f).ns ≤ f.importedFrom.ns := by
  unfold effectiveFrom
  split_ifs with hb
  · exact le_refl _
  · simpa using fun h' => hb ⟨h, h'⟩

@[simp] theorem effectiveFrom_clampTo : effectiveFrom (clampTo today f) = effectiveFrom f := by
  simp only [effectiveFrom, clampTo_from, clampTo_importedFrom]

theorem effectiveFrom_validate : effectiveFrom (validate today f) = effectiveFrom (validateTimes today f) := by
  simp only [effectiveFrom, validate_from, validate_importedFrom]

/-- `splitImported` keeps the effective start of a range with a set `From`, when
`importedFrom` does not start it. -/
theorem effectiveFrom_splitImported (h₀ : ¬f.from.IsZero)
    (hi : ¬(¬f.importedFrom.IsZero ∧ f.importedFrom.Before f.from)) :
    effectiveFrom (splitImported f) = f.from := by
  by_cases hc : ¬f.importedUntil.IsZero ∧ f.from.Before f.importedUntil
  · by_cases hT : f.to.Before f.importedUntil
    · rw [splitImported_of_before hc.1 hc.2 hT]
      exact effectiveFrom_of_not fun h => lt_irrefl _ h.2
    · rw [splitImported_of_reaches hc.1 hc.2 hT]
      exact if_pos ⟨h₀, hc.2⟩
  · rw [splitImported_of_not hc]; exact effectiveFrom_of_not hi

/-- `validateTimes` leaves alone an ordered range of normal times that ends by
tomorrow: it may move part of it to the imported tables, but not its effective
range. -/
theorem validateTimes_of_normal_range (hF : validateTime f.includeTime f.from = f.from)
    (hT : validateTime f.includeTime f.to = f.to) (h₀ : ¬f.from.IsZero)
    (hlt : f.from.ns < f.to.ns) (htom : f.to.ns ≤ (tomorrow today).ns)
    (hi : ¬(¬f.importedFrom.IsZero ∧ f.importedFrom.Before f.from)) :
    (validateTimes today f).to = f.to ∧ effectiveFrom (validateTimes today f) = f.from := by
  have hn : normalizeRange f = f :=
    normalizeRange_of_normal hF hT fun h => absurd (Time.after_iff.mp h.2) (not_lt.mpr hlt.le)
  have hc : ¬(¬(splitImported f).to.IsZero ∧ (splitImported f).to.After (tomorrow today)) := by
    simpa using fun _ => htom
  rw [validateTimes, hn, clampTo_to, if_neg hc, splitImported_to, effectiveFrom_clampTo,
    effectiveFrom_splitImported h₀ hi]
  exact ⟨rfl, rfl⟩

/-- On a filter whose `importedFrom` is zero, as in every filter a caller builds, the
effective start after `validateTimes` is `F₀`, or `ImportedUntil`: normal either way. -/
theorem validateTimes_effectiveFrom_normal (hiF : f.importedFrom.IsZero)
    (hIU : f.importedUntil.IsZero ∨ f.importedUntil.IsDate) :
    validateTime f.includeTime (effectiveFrom (validateTimes today f)) =
      effectiveFrom (validateTimes today f) := by
  unfold effectiveFrom
  split_ifs with h
  · rw [validateTimes_importedFrom] at h ⊢
    split_ifs at h ⊢
    · exact normalizeRange_from_normal
    · exact absurd hiF h.1
  · exact validateTimes_from_normal hIU

end Effective

/-! ## Normal times

A time `validate` has normalised stays normal when it is moved by a whole number of
days, or, with `IncludeTime`, by any duration. -/

theorem isDate_of_validateTime {t : Time} (h₀ : ¬t.IsZero) (h : validateTime false t = t) :
    t.IsDate := by
  rw [validateTime, if_neg h₀, if_neg Bool.false_ne_true] at h
  exact h ▸ toDate_isDate t

theorem offset_of_validateTime {t : Time} (h₀ : ¬t.IsZero) (h : validateTime true t = t) :
    t.offset = 0 := by
  rw [validateTime, if_neg h₀, if_pos rfl] at h
  exact h ▸ Time.inUTC_offset t

theorem validateTime_add {b : Bool} {t : Time} (h₀ : ¬t.IsZero) (h : validateTime b t = t) (k : Int)
    (hk : b = false → k % day = 0) : validateTime b (t.add k) = t.add k := by
  cases b with
  | false =>
      have := Time.isDate_add (isDate_of_validateTime h₀ h) (k / day)
      rw [Int.ediv_mul_cancel (Int.dvd_of_emod_eq_zero (hk rfl))] at this
      exact validateTime_of_isDate this _
  | true =>
      unfold validateTime
      split_ifs
      · rfl
      · have ho : t.offset = 0 := offset_of_validateTime h₀ h
        exact Time.inUTC_of_offset ho
      · exact absurd rfl ‹¬true = true›

/-- Two non-zero normal times of a date filter are a whole number of days apart. -/
theorem sub_emod_day {s e : Time} (hs₀ : ¬s.IsZero) (he₀ : ¬e.IsZero) (hs : validateTime false s = s)
    (he : validateTime false e = e) : (e.ns - s.ns) % day = 0 := by
  have h₁ := (isDate_of_validateTime hs₀ hs).2
  have h₂ := (isDate_of_validateTime he₀ he).2
  unfold day at *
  omega

/-! ## The previous period -/

section Previous

variable {today : Int} {now : Time} {g : Filter}

/-- A range of at least a day ends a day before it starts and keeps its length. -/
theorem shiftRange_of_long (hne : ¬(effectiveFrom g).Equal g.to)
    (hd : day ≤ g.to.sub (effectiveFrom g)) :
    shiftRange today now g =
      { g with
        «from» := ((effectiveFrom g).add (-day)).add (-(g.to.sub (effectiveFrom g)))
        «to» := (effectiveFrom g).add (-day) } := by
  simp only [shiftRange, if_neg hne, if_pos hd]

/-- **One step back.**  On a filter whose effective range `[S, E]` is made of normal
times, lasts between a day and the largest `Duration`, ends by tomorrow and moves
back to a range that still starts after the zero time, `getPreviousPeriod` ends
the range a day before `S`, keeps its length, and keeps `IncludeTime`. -/
theorem getPreviousPeriod_of_long
    (hS : validateTime g.includeTime (effectiveFrom g) = effectiveFrom g)
    (hE : validateTime g.includeTime g.to = g.to)
    (hd : day ≤ g.to.ns - (effectiveFrom g).ns) (hmax : g.to.ns - (effectiveFrom g).ns ≤ maxDuration)
    (hstart : g.to.ns - (effectiveFrom g).ns + day < (effectiveFrom g).ns)
    (htom : g.to.ns ≤ (tomorrow today).ns) :
    (getPreviousPeriod today now g).to.ns = (effectiveFrom g).ns - day ∧
      (getPreviousPeriod today now g).to.ns - (effectiveFrom (getPreviousPeriod today now g)).ns =
        g.to.ns - (effectiveFrom g).ns ∧
      (getPreviousPeriod today now g).includeTime = g.includeTime := by
  have hday := day_pos
  have hle := @effectiveFrom_le_importedFrom g
  have hsub : g.to.sub (effectiveFrom g) = g.to.ns - (effectiveFrom g).ns :=
    Time.sub_eq (by unfold minDuration; omega) hmax
  have hsh := @shiftRange_of_long today now g (by simp only [Time.equal_iff]; omega) (by rw [hsub]; exact hd)
  rw [hsub] at hsh
  generalize effectiveFrom g = S at hS hd hmax hstart hle hsh ⊢
  have hS₀ : ¬S.IsZero := by simp only [Time.isZero_iff]; omega
  -- the moved range starts before a set `importedFrom`
  have hi : ¬(¬(shiftRange today now g).importedFrom.IsZero ∧
      (shiftRange today now g).importedFrom.Before (shiftRange today now g).from) := by
    rw [hsh]
    rintro ⟨h0, h1⟩
    have := hle h0
    simp only [Time.before_iff, Time.add_ns] at h1
    omega
  unfold getPreviousPeriod
  split
  · -- `ImportedUntil` is set: the moved range is validated again, and keeps its
    -- effective range
    have hk : g.includeTime = false → (g.to.ns - S.ns) % day = 0 := fun hb =>
      sub_emod_day hS₀ (by simp only [Time.isZero_iff]; omega) (hb ▸ hS) (hb ▸ hE)
    have hT' := validateTime_add hS₀ hS (-day) fun _ => by unfold day; omega
    have hF' := validateTime_add (by simp only [Time.isZero_iff, Time.add_ns]; omega) hT'
      (-(g.to.ns - S.ns)) fun hb => by have := hk hb; unfold day at *; omega
    obtain ⟨hto, hfrom⟩ := @validateTimes_of_normal_range today (shiftRange today now g)
      (by rw [hsh]; exact hF') (by rw [hsh]; exact hT')
      (by rw [hsh]; simp only [Time.isZero_iff, Time.add_ns]; omega)
      (by rw [hsh]; simp only [Time.add_ns]; omega)
      (by rw [hsh]; simp only [Time.add_ns]; omega) hi
    rw [validate_to, hto, effectiveFrom_validate, hfrom, validate_includeTime, hsh]
    simp only [Time.add_ns]
    exact ⟨by omega, by omega, trivial⟩
  · rw [effectiveFrom_of_not hi, hsh]
    simp only [Time.add_ns]
    exact ⟨by omega, by omega, trivial⟩

end Previous

/-- **The previous period of a validated filter.**  Take a filter a caller builds
(`importedFrom` is zero) with `ImportedUntil` zero or a UTC date, validated on day
`today`, and its effective range `[S, E]`.  If `S < E`, the range lasts at least a
day when `IncludeTime` is set (an ordered date range always does), its length is a
`Duration` and the previous period starts after the zero time, then after
`getPreviousPeriod`, re-validation included, the range ends a day before `S` and
has the same length, and `IncludeTime` is unchanged. -/
theorem getPreviousPeriod_validate (today : Int) (now : Time) (f : Filter)
    (hiF : f.importedFrom.IsZero) (hIU : f.importedUntil.IsZero ∨ f.importedUntil.IsDate) :
    let v := validate today f
    let p := getPreviousPeriod today now v
    (effectiveFrom v).ns < v.to.ns →
    (f.includeTime → day ≤ v.to.ns - (effectiveFrom v).ns) →
    v.to.ns - (effectiveFrom v).ns ≤ maxDuration →
    v.to.ns - (effectiveFrom v).ns + day < (effectiveFrom v).ns →
    p.to.ns = (effectiveFrom v).ns - day ∧
      p.to.ns - (effectiveFrom p).ns = v.to.ns - (effectiveFrom v).ns ∧
      p.includeTime = v.includeTime := by
  dsimp only
  intro hlt hlong hmax hstart
  have hday := day_pos
  have hb := validate_includeTime today f
  have hS : validateTime (validate today f).includeTime (effectiveFrom (validate today f)) =
      effectiveFrom (validate today f) := by
    rw [hb, effectiveFrom_validate]; exact validateTimes_effectiveFrom_normal hiF hIU
  have hE : validateTime (validate today f).includeTime (validate today f).to = (validate today f).to := by
    rw [hb, validate_to]; exact validateTimes_to_normal
  have hS₀ : ¬(effectiveFrom (validate today f)).IsZero := by simp only [Time.isZero_iff]; omega
  have hE₀ : ¬(validate today f).to.IsZero := by simp only [Time.isZero_iff]; omega
  refine getPreviousPeriod_of_long hS hE ?_ hmax hstart ?_
  · cases hi : f.includeTime
    · -- a date range: `S` and `E` are dates, so `S < E` is a day apart at least
      rw [hb, hi] at hS hE
      have := sub_emod_day hS₀ hE₀ hS hE
      unfold day at *
      omega
    · exact hlong hi
  · rw [validate_to] at hE₀ ⊢
    exact validateTimes_to_le hE₀

/-- `getPreviousPeriod_validate` applies to a date range that reaches `ImportedUntil`:
2023-12-12 to 2023-12-22 with `ImportedUntil` 2023-12-17, on 2024-01-01. -/
theorem getPreviousPeriod_validate_example :
    let f : Filter :=
      { «from» := ⟨738870 * day, 0⟩
        «to» := ⟨738880 * day, 0⟩
        importedUntil := ⟨738875 * day, 0⟩ }
    let v := validate 738885 f
    let p := getPreviousPeriod 738885 ⟨738885 * day, 0⟩ v
    f.importedFrom.IsZero ∧ (f.importedUntil.IsZero ∨ f.importedUntil.IsDate) ∧
      (effectiveFrom v).ns < v.to.ns ∧ (f.includeTime → day ≤ v.to.ns - (effectiveFrom v).ns) ∧
      v.to.ns - (effectiveFrom v).ns ≤ maxDuration ∧
      v.to.ns - (effectiveFrom v).ns + day < (effectiveFrom v).ns ∧
      p.to.ns = (effectiveFrom v).ns - day ∧
      p.to.ns - (effectiveFrom p).ns = v.to.ns - (effectiveFrom v).ns ∧
      p.includeTime = v.includeTime :=
  ⟨by decide, .inr (by decide), by decide, by decide, by decide, by decide,
    getPreviousPeriod_validate 738885 ⟨738885 * day, 0⟩ _ (by decide) (.inr (by decide))
      (by decide) (by decide) (by decide) (by decide)⟩

/-- A time range ends a day before `S`, not at `S`: on 2024-01-01, the 48 hours from
2023-12-27 to 2023-12-29 move back to end on 2023-12-26. -/
theorem getPreviousPeriod_time_range_gap :
    let v := validate 738885 { «from» := ⟨738880 * day, 0⟩, «to» := ⟨738882 * day, 0⟩, includeTime := true }
    let p := getPreviousPeriod 738885 ⟨738885 * day, 0⟩ v
    v.includeTime ∧ day ≤ v.to.ns - (effectiveFrom v).ns ∧ p.to ≠ effectiveFrom v := by
  decide

/-! ## What the previous period keeps

`getPreviousPeriod` moves the range and may set `IncludeTime`; it keeps every
other field, also through the re-validation, because on a filter it has
validated once `validate` writes nothing but the range.  A filter `g` that
differs from `f` in the range fields at most is one with `withRangeOf f g = g`. -/

/-- `f` with the range fields of `g`: `From`, `To`, `importedFrom`, `importedTo` and
`IncludeTime`. -/
def withRangeOf (f g : Filter) : Filter :=
  { f with «from» := g.from, «to» := g.to, importedFrom := g.importedFrom, importedTo := g.importedTo,
           includeTime := g.includeTime }

section Frame

variable {today : Int} {now : Time} {f g : Filter}

/-- A validated filter has its defaults. -/
theorem validateDefaults_validate : validateDefaults (validate today f) = validate today f := by
  rw [validate, validateDefaults_validateFields, ← validateTimes_validateDefaults,
    validateDefaults_validateDefaults]

/-- `shiftRange` writes the range fields only. -/
theorem shiftRange_withRangeOf : withRangeOf g (shiftRange today now g) = shiftRange today now g := by
  dsimp only [shiftRange]; split_ifs <;> rfl

/-- On a filter whose defaults and other fields are already validated, `validate`
writes the range fields only. -/
theorem validate_withRangeOf (hD : validateDefaults f = f) (hF : validateFields f = f)
    (hg : withRangeOf f g = g) : withRangeOf f (validate today g) = validate today g := by
  have hD' : validateDefaults (withRangeOf f g) = withRangeOf f g := congrArg (withRangeOf · g) hD
  have hT : validateTimes today (withRangeOf f g) = withRangeOf f (validateTimes today (withRangeOf f g)) := by
    rw [validateTimes_eq]; rfl
  have hF' : ∀ h, validateFields (withRangeOf f h) = withRangeOf f h := fun h =>
    congrArg (withRangeOf · h) hF
  rw [← hg, validate, hD', hT, hF']
  rfl

end Frame

/-- **The previous period keeps the predicates.**  On a filter validated on any day,
`getPreviousPeriod`, re-validation included, changes no field but `From`, `To`,
`importedFrom`, `importedTo` and `IncludeTime`. -/
theorem getPreviousPeriod_keeps_filter (today₁ today₂ : Int) (now : Time) (f : Filter) :
    let v := validate today₁ f
    let p := getPreviousPeriod today₂ now v
    p = { v with «from» := p.from, «to» := p.to, importedFrom := p.importedFrom,
                 importedTo := p.importedTo, includeTime := p.includeTime } := by
  show _ = withRangeOf (validate today₁ f) (getPreviousPeriod today₂ now (validate today₁ f))
  refine Eq.symm ?_
  unfold getPreviousPeriod
  split
  · exact validate_withRangeOf validateDefaults_validate (validateFields_validateFields _) shiftRange_withRangeOf
  · exact shiftRange_withRangeOf

end Pirsch.Analyzer
