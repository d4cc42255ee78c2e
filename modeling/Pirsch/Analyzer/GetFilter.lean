import Pirsch.Filter.Idempotence

/-!
# `Analyzer.getFilter`

Every analysis method of `analyzer.go` and its siblings starts with
`filter = analyzer.getFilter(filter)`.  `getFilter` (lines 97–105) validates the
`*Filter` it is given **in place** and only then takes a shallow copy.  The copy
keeps the caller's struct out of what the method does next (`getPreviousPeriod`
rewrites the range), but not out of `validate`: after the call the caller's
struct is the validated filter (`getFilter_some`), so it is unchanged exactly
when it was already validated.

A `*Filter` is modelled by what it points to, `none` for `nil`; `getFilter`
returns what the caller's pointer points to after the call together with the
copy.  The clock is read once per call, by `validate`; the calls modelled here
all read the same day.

Handing the same `*Filter` to several methods in a row (`getFilterCalls`) gives
each of them `validate f` and leaves `validate f` behind, as long as `validate`
is idempotent on `f` (`getFilterCalls_some`).
-/

namespace Pirsch.Analyzer

open Filter

/-- `analyzer.getFilter(filter)`: what the caller's pointer points to after the
call, and the copy returned.  A `nil` filter is replaced by a fresh one, which the
caller never sees. -/
def getFilter (today : Int) : Option Filter → Option Filter × Filter
  | none => (none, validate today (newFilter nullClient))
  | some f => (some (validate today f), validate today f)

/-- `n` analysis methods called one after another with the same `*Filter`: the
copies they work on, and what the caller's pointer points to after the last. -/
def getFilterCalls (today : Int) : Nat → Option Filter → List Filter × Option Filter
  | 0, p => ([], p)
  | n + 1, p =>
      let (cs, q) := getFilterCalls today n (getFilter today p).1
      ((getFilter today p).2 :: cs, q)

section

variable {today : Int} {f : Filter}

/-- The caller's filter is validated in place, and the copy is equal to it. -/
theorem getFilter_some (today : Int) (f : Filter) :
    getFilter today (some f) = (some (validate today f), validate today f) := rfl

/-- A fresh filter replaces `nil`; the caller's pointer stays `nil`. -/
theorem getFilter_none (today : Int) :
    getFilter today none = (none, validate today (newFilter nullClient)) := rfl

/-- The caller's filter is left as it was exactly when it was already validated. -/
theorem getFilter_caller_unchanged_iff (today : Int) (f : Filter) :
    (getFilter today (some f)).1 = some f ↔ validate today f = f := by
  rw [getFilter_some, Option.some.injEq]

/-- On a filter `validate` leaves alone, a call changes nothing and hands out the filter. -/
theorem getFilter_of_validate_eq (h : validate today f = f) :
    getFilter today (some f) = (some f, f) := by
  rw [getFilter_some, h]

/-- The run lemma: from a filter `validate` leaves alone, every call hands out the
same filter and leaves it in place. -/
theorem getFilterCalls_of_validate_eq (h : validate today f = f) (n : Nat) :
    getFilterCalls today n (some f) = (List.replicate n f, some f) := by
  induction n with
  | zero => rfl
  | succ n ih => simp only [getFilterCalls, getFilter_of_validate_eq h, ih, List.replicate_succ]

end

/-- The caller's filter is changed: a negative `Limit` becomes `0` in it. -/
theorem getFilter_changes_caller :
    (getFilter 738885 (some { limit := -1 })).1 ≠ some { limit := -1 } := by
  rw [Ne, getFilter_caller_unchanged_iff]
  exact fun h => absurd (congrArg Filter.limit h) (by decide)

/-- **Reusing one `*Filter`.**  Handing a non-nil filter `f` to `n + 1` analysis
methods in a row gives each of them the copy `validate f` and leaves
`validate f` in the caller's struct, when the validated `From` is not after
tomorrow and `ImportedUntil` is zero or a UTC date not after tomorrow. -/
theorem getFilterCalls_some (today : Int) (f : Filter) (n : Nat)
    (hF : (validate today f).from.ns ≤ (tomorrow today).ns)
    (hIU : f.importedUntil.IsZero ∨
      (f.importedUntil.IsDate ∧ f.importedUntil.ns ≤ (tomorrow today).ns)) :
    getFilterCalls today (n + 1) (some f) =
      (List.replicate (n + 1) (validate today f), some (validate today f)) := by
  simp only [getFilterCalls, getFilter_some,
    getFilterCalls_of_validate_eq (validate_validate hF hIU), List.replicate_succ]

/-- `getFilterCalls_some` applies to a filter whose range the first call changes: on
2024-01-01 (day 738885), with `Limit` −1, `From` 2023-12-17 05:00, `To`
2023-12-27 and `ImportedUntil` 2023-12-22, the first call cuts `From` to the
midnight and then moves it to `ImportedUntil`, and every later call keeps it. -/
theorem getFilterCalls_some_example :
    let f : Filter :=
      { «from» := ⟨738870 * day + 5 * 3600 * second, 0⟩
        «to» := ⟨738880 * day, 0⟩
        importedUntil := ⟨738875 * day, 0⟩
        limit := -1 }
    (validate 738885 f).from.ns = f.importedUntil.ns ∧
      (validate 738885 f).from.ns ≤ (tomorrow 738885).ns ∧
      (f.importedUntil.IsZero ∨ (f.importedUntil.IsDate ∧ f.importedUntil.ns ≤ (tomorrow 738885).ns)) ∧
      getFilterCalls 738885 3 (some f) = (List.replicate 3 (validate 738885 f), some (validate 738885 f)) :=
  ⟨by decide, by decide, .inr ⟨by decide, by decide⟩,
    getFilterCalls_some 738885 _ 2 (by decide) (.inr ⟨by decide, by decide⟩)⟩

end Pirsch.Analyzer
