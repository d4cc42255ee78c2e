import Pirsch.Time
import Mathlib.Data.Fintype.Basic
import Mathlib.Tactic.DeriveFintype
import Mathlib.Logic.Function.Basic

/-!
# The `Filter` of `pkg/analyzer/filter.go`

The request object of every analysis: a time range, one list of strings per
dimension, two string maps, search and sort lists, paging and display options,
and the three fields that only `validate` and the funnel queries write
(`funnelStep`, `importedFrom`, `importedTo`).

## Modelling choices

* The twenty-six `[]string` fields are one field `dims : Dimension → List String`,
  so that "every list-valued field" is a quantifier over `Dimension` and not a
  conjunction of twenty-six clauses.  A Go `nil` slice and an empty one are both
  `[]`: nothing in the modelled code tells them apart (it only takes `len`).
* A `map[string]string` is a `StrMap`, a list of entries whose keys are distinct.
* `Field` names every catalog entry that the modelled code compares against;
  `Field.other` stands for each of the remaining entries of the catalog, which
  the code only passes along.
* `Ctx`, `Timezone` and the enumerations of package `pkg` keep only what the code
  reads of them: whether they are set, the location's name, and equality.
-/

namespace Pirsch

/-- The entries of the field catalog (`pkg/analyzer/fields.go`) that `filter.go`
compares against. -/
inductive Field where
  | visitorID | sessionID | visitorsRaw
  | path | entryPath | exitPath | entryTitle | exitTitle | entries | exits
  | hour | minute | day
  | tagKey | tagValue | tagKeysRaw | tagValuesRaw
  | eventName | eventPath | eventTitle
  | eventMeta | eventMetaKeys | eventMetaValues | eventMetaKeysRaw | eventMetaValuesRaw
  | eventsAll | pageViewsAll | sessionsAll
  | bounces | views | crPeriod
  /-- Any other entry of the catalog, by name. -/
  | other (name : String)
deriving DecidableEq, Repr

/-- The list-valued dimension fields of `Filter`, in the order of its declaration. -/
inductive Dimension where
  | hostname | path | anyPath | entryPath | exitPath | pathPattern
  | language | country | region | city | referrer | referrerName | channel
  | os | osVersion | browser | browserVersion | screenClass
  | utmSource | utmMedium | utmCampaign | utmContent | utmTerm
  | tag | eventName | eventMetaKey
deriving DecidableEq, Repr, Fintype

/-- `Search`: the field to search and the input to look for. -/
structure Search where
  field : Field
  input : String
deriving DecidableEq, Repr

/-- `Sort` of the source (the name is a Lean keyword): a field and a
`pkg.Direction`, which is a string. -/
structure SortBy where
  field : Field
  direction : String
deriving DecidableEq, Repr

/-- A Go `map[string]string`: its entries, each key once. -/
structure StrMap where
  entries : List (String × String)
  nodupKeys : (entries.map Prod.fst).Nodup

namespace StrMap

instance : DecidableEq StrMap := fun a b =>
  decidable_of_iff (a.entries = b.entries) (by cases a; cases b; simp)

/-- The `nil` map. -/
def empty : StrMap := ⟨[], List.nodup_nil⟩

instance : Inhabited StrMap := ⟨empty⟩

/-- `len(m)`. -/
def len (m : StrMap) : Nat := m.entries.length

/-- `m[k]`, with its `ok`. -/
def lookup (m : StrMap) (k : String) : Option String := List.lookup k m.entries

@[simp] theorem len_empty : empty.len = 0 := rfl

end StrMap

/-- A `context.Context`: the background one, or one the caller made. -/
inductive Context where
  | background
  | caller (id : Nat)
deriving DecidableEq, Repr

/-- A `*time.Location`, by its name. -/
structure Location where
  name : String
deriving DecidableEq, Repr

/-- `time.UTC`. -/
def Location.utc : Location := ⟨"UTC"⟩

/-- `Timezone.String()`: a `nil` location prints as `UTC`. -/
def Location.string : Option Location → String
  | none => "UTC"
  | some l => l.name

/-- `pkg.CustomMetricTypeInteger`. -/
def customMetricTypeInteger : String := "integer"

/-- `pkg.CustomMetricTypeFloat`. -/
def customMetricTypeFloat : String := "float"

/-- `WeekdayMonday`. -/
def weekdayMonday : Int := 1

/-- `WeekdaySunday`. -/
def weekdaySunday : Int := 2

/-- Modelled from the spec: `pkg.NullClient`, the "no client" sentinel `0`. -/
def nullClient : Int := 0

/-- `Filter`.  Each field has Go's zero value as its default. -/
structure Filter where
  ctx : Option Context := none
  clientID : Int := 0
  timezone : Option Location := none
  «from» : Time := default
  «to» : Time := default
  importedUntil : Time := default
  period : Int := 0
  /-- `Hostname`, `Path`, `AnyPath`, … , `EventMetaKey`. -/
  dims : Dimension → List String := fun _ => []
  platform : String := ""
  tags : StrMap := .empty
  eventMeta : StrMap := .empty
  visitorID : Nat := 0
  sessionID : Nat := 0
  search : List Search := []
  sort : List SortBy := []
  offset : Int := 0
  limit : Int := 0
  customMetricKey : String := ""
  customMetricType : String := ""
  includeTime : Bool := false
  includeTitle : Bool := false
  includeTimeOnPage : Bool := false
  includeCR : Bool := false
  weekdayMode : Int := 0
  maxTimeOnPageSeconds : Int := 0
  sample : Nat := 0
  funnelStep : Int := 0
  importedFrom : Time := default
  importedTo : Time := default
deriving DecidableEq

namespace Filter

/-- `NewFilter(clientID)`. -/
def newFilter (clientID : Int) : Filter := { clientID := clientID }

/-- Replace one list-valued field. -/
def setDim (f : Filter) (d : Dimension) (v : List String) : Filter :=
  { f with dims := Function.update f.dims d v }

@[simp] theorem setDim_dims_self (f : Filter) (d : Dimension) (v : List String) :
    (f.setDim d v).dims d = v := by simp [setDim]

@[simp] theorem setDim_dims_of_ne (f : Filter) {d e : Dimension} (v : List String) (h : e ≠ d) :
    (f.setDim d v).dims e = f.dims e := by simp [setDim, h]

/-- `filter.Empty()`: no dimension predicate is set.  Time and options do not count. -/
def Empty (f : Filter) : Prop :=
  (∀ d, f.dims d = []) ∧ f.platform = "" ∧ f.tags.len = 0 ∧ f.eventMeta.len = 0 ∧
    f.visitorID = 0 ∧ f.sessionID = 0 ∧ f.search = []

instance (f : Filter) : Decidable f.Empty :=
  inferInstanceAs (Decidable ((∀ d, f.dims d = []) ∧ f.platform = "" ∧ f.tags.len = 0 ∧
    f.eventMeta.len = 0 ∧ f.visitorID = 0 ∧ f.sessionID = 0 ∧ f.search = []))

/-- `filter.searchContains(needle)`. -/
def searchContains (f : Filter) (needle : Field) : Prop := ∃ s ∈ f.search, s.field = needle

instance (f : Filter) (needle : Field) : Decidable (f.searchContains needle) :=
  inferInstanceAs (Decidable (∃ s ∈ f.search, s.field = needle))

end Filter

/-- `filter.fieldsContain(haystack, needle)`. -/
def fieldsContain (haystack : List Field) (needle : Field) : Prop := needle ∈ haystack

instance (haystack : List Field) (needle : Field) : Decidable (fieldsContain haystack needle) :=
  inferInstanceAs (Decidable (needle ∈ haystack))

/-- `strings.HasPrefix(s, prefix)`.  On valid UTF-8 a byte prefix is a rune prefix. -/
def hasPrefix (s pre : String) : Bool := pre.data.isPrefixOf s.data

/-- `filter.valuesContainPrefix(haystack, prefix)`. -/
def valuesContainPrefix (haystack : List String) (pre : String) : Prop :=
  ∃ v ∈ haystack, hasPrefix v pre = true

instance (haystack : List String) (pre : String) : Decidable (valuesContainPrefix haystack pre) :=
  inferInstanceAs (Decidable (∃ v ∈ haystack, hasPrefix v pre = true))

/-- `filter.excludeFields(fields, exclude...)`. -/
def excludeFields (fields exclude : List Field) : List Field :=
  fields.filter fun field => ¬fieldsContain exclude field

/-- `excludeFields` keeps exactly the fields not excluded, in order. -/
theorem mem_excludeFields {fields exclude : List Field} {x : Field} :
    x ∈ excludeFields fields exclude ↔ x ∈ fields ∧ x ∉ exclude := by
  simp [excludeFields, fieldsContain]

end Pirsch
