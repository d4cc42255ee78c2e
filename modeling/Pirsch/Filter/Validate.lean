import Pirsch.Filter.RemoveDuplicates

/-!
# `Filter.validate`

`validate` (lines 535–646 of `filter.go`) brings a filter to canonical form in
place.  It is cut here along the source into three parts that touch disjoint
fields, each a composition of the steps in the order of the source:

* `validateDefaults`, lines 536–542: the context and the timezone;
* `validateTimes`, lines 544–582: `From`, `To`, `importedFrom`, `importedTo`,
  in four steps — truncation and swap (`normalizeRange`), the imported split
  (`splitImported`) and the clamp to tomorrow (`clampTo`);
* `validateFields`, lines 584–645: the options (`normalizeOptions`) and the
  list-valued fields (`normalizeDims`).

The clock is read once, by `util.Today()`; `validate` takes the day it returns.

Each step comes with the lemmas that say which fields it leaves alone, so later
proofs never unfold more than the step they are about.
-/

namespace Pirsch

/-! ## `strings.TrimSpace` -/

/-- `unicode.IsSpace`: the Latin-1 spaces `\t \n \v \f \r`, space, U+0085 and
U+00A0, and above Latin-1 the rest of the `White_Space` table. -/
def isSpace (c : Char) : Bool :=
  let n := c.toNat
  (9 ≤ n && n ≤ 13) || n == 32 || n == 0x85 || n == 0xA0 || n == 0x1680 ||
    (0x2000 ≤ n && n ≤ 0x200A) || n == 0x2028 || n == 0x2029 || n == 0x202F ||
    n == 0x205F || n == 0x3000

/-- `strings.TrimSpace(s)`: `s` without its leading and trailing spaces. -/
def trimSpace (s : String) : String :=
  ⟨((s.data.dropWhile isSpace).reverse.dropWhile isSpace).reverse⟩

/-- A list that does not start with a space is not changed by dropping leading spaces. -/
theorem dropWhile_of_head {p : Char → Bool} {l : List Char}
    (h : ∀ c, l.head? = some c → p c = false) : l.dropWhile p = l := by
  cases l with
  | nil => rfl
  | cons c cs => simp [List.dropWhile_cons, h c rfl]

theorem head_dropWhile {p : Char → Bool} (l : List Char) :
    ∀ c, (l.dropWhile p).head? = some c → p c = false := by
  intro c hc
  induction l with
  | nil => simp at hc
  | cons d ds ih =>
      by_cases hd : p d
      · exact ih (by simpa [List.dropWhile_cons, hd] using hc)
      · simp only [List.dropWhile_cons, hd] at hc
        simp_all

/-- Trimming twice trims nothing more. -/
theorem trimSpace_trimSpace (s : String) : trimSpace (trimSpace s) = trimSpace s := by
  obtain ⟨l⟩ := s
  simp only [trimSpace]
  congr 1
  set ys := l.dropWhile isSpace
  set m := ys.reverse.dropWhile isSpace
  have hm : ∀ c, m.head? = some c → isSpace c = false := head_dropWhile _
  -- what is kept is a prefix of `ys`, which does not start with a space
  have hstart : ∀ c, m.reverse.head? = some c → isSpace c = false := by
    obtain ⟨t, ht⟩ : m.reverse <+: ys :=
      List.reverse_suffix.mp (by rw [List.reverse_reverse]; exact List.dropWhile_suffix isSpace)
    intro c hc
    refine head_dropWhile l c ?_
    show ys.head? = some c
    rw [← ht]
    cases hr : m.reverse <;> simp_all
  rw [dropWhile_of_head hstart, List.reverse_reverse, dropWhile_of_head hm]

namespace Filter

/-! ## Defaults -/

/-- Lines 536–542: a missing context or timezone gets its default. -/
def validateDefaults (f : Filter) : Filter :=
  { f with ctx := some (f.ctx.getD .background), timezone := some (f.timezone.getD .utc) }

/-! ## The time range -/

/-- Lines 544–558, for one of `From` and `To`: a non-zero time is moved to UTC
when `IncludeTime` is set, and truncated to its date otherwise. -/
def validateTime (includeTime : Bool) (t : Time) : Time :=
  if t.IsZero then t else if includeTime then t.inUTC else toDate t

/-- Lines 544–562: `From` and `To` through `validateTime`, then swapped when
`To` is set and `From` is after it. -/
def normalizeRange (f : Filter) : Filter :=
  let f := { f with «from» := validateTime f.includeTime f.from,
                    «to» := validateTime f.includeTime f.to }
  if ¬f.to.IsZero ∧ f.from.After f.to then { f with «from» := f.to, «to» := f.from } else f

/-- Lines 564–575: the part of the range before `ImportedUntil` is read from the
imported tables; when the range reaches `ImportedUntil`, the live range starts there. -/
def splitImported (f : Filter) : Filter :=
  if ¬f.importedUntil.IsZero ∧ f.from.Before f.importedUntil then
    if f.to.Before f.importedUntil then { f with importedFrom := f.from, importedTo := f.to }
    else { f with «from» := f.importedUntil, importedFrom := f.from,
                  importedTo := f.importedUntil.add (-day) }
  else f

/-- `tomorrow` of line 578. -/
def tomorrow (today : Int) : Time := (Time.today today).add day

/-- Lines 577–582: `To` is cut at tomorrow. -/
def clampTo (today : Int) (f : Filter) : Filter :=
  if ¬f.to.IsZero ∧ f.to.After (tomorrow today) then { f with «to» := tomorrow today } else f

/-- Lines 544–582. -/
def validateTimes (today : Int) (f : Filter) : Filter :=
  clampTo today (splitImported (normalizeRange f))

/-! ## Options and lists -/

/-- Lines 584–586: `PathPattern` is dropped when `Path` is set. -/
def clearPathPattern (dims : Dimension → List String) : Dimension → List String :=
  if dims .path ≠ [] ∧ dims .pathPattern ≠ [] then Function.update dims .pathPattern [] else dims

/-- Line 589. -/
def trimSearch (s : Search) : Search := { s with input := trimSpace s.input }

/-- Lines 592–598, for `Offset` and for `Limit`: a negative value becomes `0`. -/
def clampNegative (n : Int) : Int := if n < 0 then 0 else n

/-- Lines 600–604: a custom metric type other than `integer` and `float` is cleared. -/
def validCustomMetricType (t : String) : String :=
  if t ≠ "" ∧ t ≠ customMetricTypeInteger ∧ t ≠ customMetricTypeFloat then "" else t

/-- Lines 606–608: a weekday mode other than Monday and Sunday becomes Monday. -/
def validWeekdayMode (m : Int) : Int :=
  if m ≠ weekdayMonday ∧ m ≠ weekdaySunday then weekdayMonday else m

/-- Lines 584–608. -/
def normalizeOptions (f : Filter) : Filter :=
  { f with
    dims := clearPathPattern f.dims
    search := f.search.map trimSearch
    offset := clampNegative f.offset
    limit := clampNegative f.limit
    customMetricType := validCustomMetricType f.customMetricType
    weekdayMode := validWeekdayMode f.weekdayMode }

/-- The country codes kept by lines 613–619: two bytes, or three with a leading `!`. -/
def validCountry (c : String) : Bool :=
  c.utf8ByteSize == 2 || (c.utf8ByteSize == 3 && hasPrefix c "!")

/-- The fields passed through `removeDuplicates` by lines 621–645, in that order.
`Country` is deduplicated at line 610 and then filtered; `AnyPath` is not here. -/
def dedupedDimensions : List Dimension :=
  [.hostname, .path, .entryPath, .exitPath, .pathPattern, .language, .region, .city,
    .referrer, .referrerName, .channel, .os, .osVersion, .browser, .browserVersion,
    .screenClass, .utmSource, .utmMedium, .utmCampaign, .utmContent, .utmTerm, .tag,
    .eventName, .eventMetaKey]

/-- Lines 610–645, on the list-valued fields. -/
def dedupDims (dims : Dimension → List String) : Dimension → List String := fun d =>
  if d = .country then (removeDuplicates (dims .country)).filter validCountry
  else if d ∈ dedupedDimensions then removeDuplicates (dims d) else dims d

/-- Lines 610–645. -/
def normalizeDims (f : Filter) : Filter := { f with dims := dedupDims f.dims }

/-- Lines 584–645. -/
def validateFields (f : Filter) : Filter := normalizeDims (normalizeOptions f)

/-- `filter.validate()`, on the day `today` that `util.Today()` returns. -/
def validate (today : Int) (f : Filter) : Filter :=
  validateFields (validateTimes today (validateDefaults f))

end Filter

end Pirsch

namespace Pirsch.Filter

/-! ## What each step writes

Each step of the time range is an `if` over whole records.  Its `_eq` lemma says
which fields it writes, and its projection lemmas say what it writes there, as a
function of the fields it reads; no later proof unfolds a step. -/

section Steps

variable (today : Int) (f : Filter)

theorem normalizeRange_eq :
    normalizeRange f = { f with «from» := (normalizeRange f).from, «to» := (normalizeRange f).to } := by
  dsimp only [normalizeRange]; split <;> rfl

theorem splitImported_eq :
    splitImported f = { f with
      «from» := (splitImported f).from, importedFrom := (splitImported f).importedFrom,
      importedTo := (splitImported f).importedTo } := by
  unfold splitImported; split_ifs <;> rfl

theorem clampTo_eq : clampTo today f = { f with «to» := (clampTo today f).to } := by
  unfold clampTo; split <;> rfl

/-- The swap of lines 560–562, on the truncated times. -/
theorem normalizeRange_from : (normalizeRange f).from =
    if ¬(validateTime f.includeTime f.to).IsZero ∧
        (validateTime f.includeTime f.from).After (validateTime f.includeTime f.to)
    then validateTime f.includeTime f.to else validateTime f.includeTime f.from := by
  dsimp only [normalizeRange]; split <;> rfl

theorem normalizeRange_to : (normalizeRange f).to =
    if ¬(validateTime f.includeTime f.to).IsZero ∧
        (validateTime f.includeTime f.from).After (validateTime f.includeTime f.to)
    then validateTime f.includeTime f.from else validateTime f.includeTime f.to := by
  dsimp only [normalizeRange]; split <;> rfl

theorem splitImported_from : (splitImported f).from =
    if ¬f.importedUntil.IsZero ∧ f.from.Before f.importedUntil ∧ ¬f.to.Before f.importedUntil
    then f.importedUntil else f.from := by
  unfold splitImported
  by_cases h₁ : ¬f.importedUntil.IsZero ∧ f.from.Before f.importedUntil
  · by_cases h₂ : f.to.Before f.importedUntil
    · rw [if_pos h₁, if_pos h₂, if_neg fun h => h.2.2 h₂]
    · rw [if_pos h₁, if_neg h₂, if_pos ⟨h₁.1, h₁.2, h₂⟩]
  · rw [if_neg h₁, if_neg fun h => h₁ ⟨h.1, h.2.1⟩]

theorem splitImported_importedFrom : (splitImported f).importedFrom =
    if ¬f.importedUntil.IsZero ∧ f.from.Before f.importedUntil then f.from else f.importedFrom := by
  unfold splitImported; split_ifs <;> rfl

theorem splitImported_importedTo : (splitImported f).importedTo =
    if ¬f.importedUntil.IsZero ∧ f.from.Before f.importedUntil then
      (if f.to.Before f.importedUntil then f.to else f.importedUntil.add (-day))
    else f.importedTo := by
  unfold splitImported; split_ifs <;> rfl

theorem clampTo_to : (clampTo today f).to =
    if ¬f.to.IsZero ∧ f.to.After (tomorrow today) then tomorrow today else f.to := by
  unfold clampTo; split <;> rfl

@[simp] theorem normalizeRange_importedUntil : (normalizeRange f).importedUntil = f.importedUntil := by
  rw [normalizeRange_eq]
@[simp] theorem normalizeRange_includeTime : (normalizeRange f).includeTime = f.includeTime := by
  rw [normalizeRange_eq]
@[simp] theorem normalizeRange_importedFrom : (normalizeRange f).importedFrom = f.importedFrom := by
  rw [normalizeRange_eq]
@[simp] theorem normalizeRange_importedTo : (normalizeRange f).importedTo = f.importedTo := by
  rw [normalizeRange_eq]
@[simp] theorem splitImported_to : (splitImported f).to = f.to := by
  rw [splitImported_eq]
@[simp] theorem splitImported_importedUntil : (splitImported f).importedUntil = f.importedUntil := by
  rw [splitImported_eq]
@[simp] theorem clampTo_from : (clampTo today f).from = f.from := by
  rw [clampTo_eq]
@[simp] theorem clampTo_importedFrom : (clampTo today f).importedFrom = f.importedFrom := by
  rw [clampTo_eq]
@[simp] theorem clampTo_importedTo : (clampTo today f).importedTo = f.importedTo := by
  rw [clampTo_eq]

/-- `validateTimes` only writes the four time fields. -/
theorem validateTimes_eq :
    validateTimes today f = { f with
      «from» := (validateTimes today f).from, «to» := (validateTimes today f).to,
      importedFrom := (validateTimes today f).importedFrom,
      importedTo := (validateTimes today f).importedTo } := by
  unfold validateTimes
  rw [clampTo_eq, splitImported_eq, normalizeRange_eq]

@[simp] theorem validateTimes_dims : (validateTimes today f).dims = f.dims := by
  rw [validateTimes_eq]

/-- What `validateTimes` writes depends only on the fields it reads: the time
fields and `IncludeTime`. -/
theorem validateTimes_congr {g g' : Filter} (h₁ : g'.from = g.from) (h₂ : g'.to = g.to)
    (h₃ : g'.includeTime = g.includeTime) (h₄ : g'.importedUntil = g.importedUntil)
    (h₅ : g'.importedFrom = g.importedFrom) (h₆ : g'.importedTo = g.importedTo) :
    validateTimes today g' = { g' with
      «from» := (validateTimes today g).from, «to» := (validateTimes today g).to,
      importedFrom := (validateTimes today g).importedFrom,
      importedTo := (validateTimes today g).importedTo } := by
  rw [validateTimes_eq]
  simp only [validateTimes, clampTo_from, clampTo_to, clampTo_importedFrom, clampTo_importedTo,
    splitImported_from, splitImported_to, splitImported_importedFrom, splitImported_importedTo,
    splitImported_importedUntil, normalizeRange_from, normalizeRange_to, normalizeRange_importedUntil,
    normalizeRange_importedFrom, normalizeRange_importedTo, h₁, h₂, h₃, h₄, h₅, h₆]

/-- The defaults and the time range are independent steps. -/
theorem validateTimes_validateDefaults :
    validateTimes today (validateDefaults f) = validateDefaults (validateTimes today f) := by
  rw [@validateTimes_congr today f (validateDefaults f) rfl rfl rfl rfl rfl rfl, validateTimes_eq today f]
  rfl

/-! `validateDefaults` and `validateFields` touch none of the time fields, so the
time fields of `validate` are those of `validateTimes`. -/

@[simp] theorem validate_from : (validate today f).from = (validateTimes today f).from := by
  rw [validate, validateTimes_validateDefaults]; rfl
@[simp] theorem validate_to : (validate today f).to = (validateTimes today f).to := by
  rw [validate, validateTimes_validateDefaults]; rfl
@[simp] theorem validate_importedFrom :
    (validate today f).importedFrom = (validateTimes today f).importedFrom := by
  rw [validate, validateTimes_validateDefaults]; rfl
@[simp] theorem validate_importedTo :
    (validate today f).importedTo = (validateTimes today f).importedTo := by
  rw [validate, validateTimes_validateDefaults]; rfl

@[simp] theorem validate_includeTime : (validate today f).includeTime = f.includeTime := by
  rw [validate, validateTimes_eq]; rfl
@[simp] theorem validate_importedUntil : (validate today f).importedUntil = f.importedUntil := by
  rw [validate, validateTimes_eq]; rfl

end Steps

/-! ## The time steps -/

section Times

variable {today : Int} {f : Filter}

theorem tomorrow_ns (today : Int) : (tomorrow today).ns = (today + 1) * day := by
  simp only [tomorrow, Time.today, Time.add_ns]; rw [Int.add_mul, Int.one_mul]

theorem tomorrow_dayOf (today : Int) : (tomorrow today).dayOf = today + 1 := by
  simp only [Time.dayOf, tomorrow_ns, Int.mul_ediv_cancel _ (ne_of_gt day_pos)]

/-- After the swap, a set `To` is not before `From`. -/
theorem normalizeRange_from_le_to (h : ¬(normalizeRange f).to.IsZero) :
    (normalizeRange f).from.ns ≤ (normalizeRange f).to.ns := by
  dsimp only [normalizeRange] at h ⊢
  split_ifs at h ⊢ with hs
  · exact Int.le_of_lt hs.2
  · simp only [Time.isZero_iff, Time.after_iff, not_and, not_lt] at hs h; exact hs h

/-- `clampTo` sets `To` to the earlier of `To` and tomorrow, when `To` is set. -/
theorem clampTo_to_ns (h : ¬f.to.IsZero) :
    (clampTo today f).to.ns = min f.to.ns (tomorrow today).ns := by
  unfold clampTo
  split
  · next hs => simp only [Time.after_iff] at hs; dsimp only; omega
  · next hs =>
      simp only [Time.isZero_iff, Time.after_iff, not_and, not_lt] at hs h
      have := hs h; omega

theorem clampTo_to_dayOf (h : ¬f.to.IsZero) :
    (clampTo today f).to.dayOf = min f.to.dayOf (today + 1) := by
  rw [← tomorrow_dayOf today]
  rcases Int.le_total f.to.ns (tomorrow today).ns with hle | hle
  · have hday := Time.dayOf_le_dayOf hle
    simp only [Time.dayOf] at hday ⊢
    rw [clampTo_to_ns h, min_eq_left hle, min_eq_left hday]
  · have hday := Time.dayOf_le_dayOf hle
    simp only [Time.dayOf] at hday ⊢
    rw [clampTo_to_ns h, min_eq_right hle, min_eq_right hday]

/-- `splitImported` when the range starts at or after `ImportedUntil`, or that is zero. -/
theorem splitImported_of_not (h : ¬(¬f.importedUntil.IsZero ∧ f.from.Before f.importedUntil)) :
    splitImported f = f := by
  simp only [splitImported, h, if_false]

/-- `splitImported` when the whole range is before `ImportedUntil`. -/
theorem splitImported_of_before (h₁ : ¬f.importedUntil.IsZero) (h₂ : f.from.Before f.importedUntil)
    (h₃ : f.to.Before f.importedUntil) :
    splitImported f = { f with importedFrom := f.from, importedTo := f.to } := by
  simp only [splitImported, h₁, h₂, h₃, not_false_eq_true, and_self, if_true]

/-- `splitImported` when the range reaches `ImportedUntil`. -/
theorem splitImported_of_reaches (h₁ : ¬f.importedUntil.IsZero) (h₂ : f.from.Before f.importedUntil)
    (h₃ : ¬f.to.Before f.importedUntil) :
    splitImported f =
      { f with
        «from» := f.importedUntil
        importedFrom := f.from
        importedTo := f.importedUntil.add (-day) } := by
  simp only [splitImported, h₁, h₂, h₃, not_false_eq_true, and_self, if_true, if_false]

end Times

end Pirsch.Filter
