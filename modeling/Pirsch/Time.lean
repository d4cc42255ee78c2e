/-!
# Instants of Go's `time.Time`

`Filter.validate` (`pkg/analyzer/filter.go`) and `Visitors.getPreviousPeriod`
(`pkg/analyzer/visitors.go`) only ever test a time for zero, compare two
instants, shift an instant by a `time.Duration`, subtract two instants, move
an instant to UTC and truncate it to a date.  This file gives each of those
operations on a `Time` that is an instant in nanoseconds together with the UTC
offset of its location.

## Modelling choices

* The instant counts nanoseconds from the zero `time.Time`, January 1 of year
  1, 00:00:00 UTC, so `IsZero` is `ns = 0`.  That instant is a UTC midnight:
  the UTC days are the multiples of `day`, and `dayOf` numbers them.
* A location is represented by its offset at the instant (a fixed zone).
  `Year`, `Month` and `Day` are read at `ns + offset`, which is all `toDate`
  needs.
* `Sub` returns a `time.Duration`, an `int64` count of nanoseconds, and
  saturates at its bounds (about 292 years); this is modelled.  `Add` moves the
  seconds counter of `time.Time`, whose own saturation lies some 292 billion
  years away and is not modelled.
-/

namespace Pirsch

/-- `time.Second`, in nanoseconds. -/
def second : Int := 1000000000

/-- `time.Hour * 24`, the length of a UTC day in nanoseconds. -/
def day : Int := 86400000000000

theorem day_pos : 0 < day := by decide

/-- The largest `time.Duration`, `1<<63 - 1` nanoseconds. -/
def maxDuration : Int := 9223372036854775807

/-- The smallest `time.Duration`, `-1 << 63` nanoseconds. -/
def minDuration : Int := -9223372036854775808

/-- A `time.Time`. -/
structure Time where
  /-- Nanoseconds since January 1, year 1, 00:00:00 UTC. -/
  ns : Int
  /-- The UTC offset of the location at that instant, in seconds east of UTC. -/
  offset : Int := 0
deriving DecidableEq, Repr

namespace Time

instance : Inhabited Time := ⟨⟨0, 0⟩⟩

/-- `t.IsZero()`: the zero instant, in whatever location. -/
def IsZero (t : Time) : Prop := t.ns = 0

/-- `t.Before(u)`. -/
def Before (t u : Time) : Prop := t.ns < u.ns

/-- `t.After(u)`. -/
def After (t u : Time) : Prop := u.ns < t.ns

/-- `t.Equal(u)`: the same instant, whatever the locations. -/
def Equal (t u : Time) : Prop := t.ns = u.ns

instance (t : Time) : Decidable t.IsZero := inferInstanceAs (Decidable (t.ns = 0))
instance (t u : Time) : Decidable (t.Before u) := inferInstanceAs (Decidable (t.ns < u.ns))
instance (t u : Time) : Decidable (t.After u) := inferInstanceAs (Decidable (u.ns < t.ns))
instance (t u : Time) : Decidable (t.Equal u) := inferInstanceAs (Decidable (t.ns = u.ns))

@[simp] theorem isZero_iff {t : Time} : t.IsZero ↔ t.ns = 0 := Iff.rfl
@[simp] theorem before_iff {t u : Time} : t.Before u ↔ t.ns < u.ns := Iff.rfl
@[simp] theorem after_iff {t u : Time} : t.After u ↔ u.ns < t.ns := Iff.rfl
@[simp] theorem equal_iff {t u : Time} : t.Equal u ↔ t.ns = u.ns := Iff.rfl

/-- `t.In(time.UTC)`: the same instant, read in UTC. -/
def inUTC (t : Time) : Time := { t with offset := 0 }

/-- `t.Add(d)` for a `time.Duration` `d`. -/
def add (t : Time) (d : Int) : Time := { t with ns := t.ns + d }

/-- The `Duration` range check at the end of `Sub`. -/
def clampDuration (d : Int) : Int := max minDuration (min maxDuration d)

/-- `t.Sub(u)`: the duration `t - u`, saturated to the `int64` range. -/
def sub (t u : Time) : Int := clampDuration (t.ns - u.ns)

@[simp] theorem inUTC_ns (t : Time) : t.inUTC.ns = t.ns := rfl
@[simp] theorem inUTC_offset (t : Time) : t.inUTC.offset = 0 := rfl
@[simp] theorem add_ns (t : Time) (d : Int) : (t.add d).ns = t.ns + d := rfl
@[simp] theorem add_offset (t : Time) (d : Int) : (t.add d).offset = t.offset := rfl

theorem inUTC_of_offset {t : Time} (h : t.offset = 0) : t.inUTC = t := by
  cases t; simp_all [inUTC]

/-- Within the `Duration` range, `Sub` is exact. -/
theorem sub_eq {t u : Time} (h₁ : minDuration ≤ t.ns - u.ns) (h₂ : t.ns - u.ns ≤ maxDuration) :
    t.sub u = t.ns - u.ns := by
  simp only [sub, clampDuration]
  omega

/-- `Sub` never leaves the `Duration` range. -/
theorem sub_le_maxDuration (t u : Time) : t.sub u ≤ maxDuration := by
  simp only [sub, clampDuration, minDuration, maxDuration]
  omega

end Time

/-! ## Dates

`filter.toDate` rebuilds a `time.Time` from the year, month and day of its
argument, at midnight UTC.  The calendar is not needed: that midnight is the
start of the UTC day holding the argument's local wall clock. -/

/-- `filter.toDate(date)`:
`time.Date(date.Year(), date.Month(), date.Day(), 0, 0, 0, 0, time.UTC)`. -/
def toDate (date : Time) : Time :=
  ⟨(date.ns + date.offset * second) / day * day, 0⟩

/-- A date as `toDate` returns it: a midnight, in UTC. -/
def Time.IsDate (t : Time) : Prop := t.offset = 0 ∧ t.ns % day = 0

instance (t : Time) : Decidable t.IsDate :=
  inferInstanceAs (Decidable (t.offset = 0 ∧ t.ns % day = 0))

/-- The UTC calendar day holding an instant, counted from the zero time. -/
def Time.dayOf (t : Time) : Int := t.ns / day

/-- Modelled from the spec: `util.Today()`, the current date at midnight UTC.  It
reads the clock, so the model takes the day number as an argument. -/
def Time.today (d : Int) : Time := ⟨d * day, 0⟩

theorem toDate_isDate (t : Time) : (toDate t).IsDate := by
  simp only [toDate, Time.IsDate, Int.mul_emod_left, and_self]

theorem toDate_of_isDate {t : Time} (h : t.IsDate) : toDate t = t := by
  obtain ⟨ho, hd⟩ := h
  cases t
  simp only [toDate, Time.mk.injEq] at *
  subst ho
  simp only [Int.zero_mul, Int.add_zero, and_true]
  have := Int.ediv_add_emod' ‹Int› day
  omega

theorem Time.today_isDate (d : Int) : (Time.today d).IsDate := by
  simp only [Time.today, Time.IsDate, Int.mul_emod_left, and_self]

theorem Time.isDate_add {t : Time} (h : t.IsDate) (k : Int) : (t.add (k * day)).IsDate := by
  obtain ⟨ho, hd⟩ := h
  refine ⟨ho, ?_⟩
  simp only [add_ns, Int.add_mul_emod_self, hd]

theorem Time.inUTC_isDate {t : Time} (h : t.IsDate) : t.inUTC = t := inUTC_of_offset h.1

theorem Time.dayOf_le_dayOf {t u : Time} (h : t.ns ≤ u.ns) : t.dayOf ≤ u.dayOf :=
  Int.ediv_le_ediv day_pos h

/-- An instant before a midnight lies in an earlier day. -/
theorem Time.dayOf_lt_of_lt_date {t u : Time} (hu : u.ns % day = 0) (h : t.ns < u.ns) :
    t.dayOf < u.dayOf := by
  simp only [dayOf, day] at *
  omega

/-- The day of the instant a day before an instant is the previous day. -/
theorem Time.dayOf_add_neg_day (t : Time) : (t.add (-day)).dayOf = t.dayOf - 1 := by
  simp only [dayOf, add_ns, day]
  omega

end Pirsch
