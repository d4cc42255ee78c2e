import Pirsch.Filter.Basic
import Mathlib.Data.List.Nodup

/-!
# `removeDuplicates`

`filter.removeDuplicates` walks its input once, keeping a set `keys` of the
strings already seen and appending each string to `list` the first time it is
met.  `removeDuplicatesLoop` is that `for` loop with its two variables.

The loop is related, by its invariant `removeDuplicatesLoop_eq`, to
`firstOccurrences`, which keeps the first occurrence of each string not yet
`seen` and has no accumulator.  Every fact about the output is proved about
`firstOccurrences` by induction on the input: it has no duplicate, it keeps
every string of the input and only those, in their order, and it is a fixed
point on a list without duplicates.  `removeDuplicates_eq_enum` says by
position which strings it keeps: those that do not occur earlier.
-/

namespace Pirsch

/-- The loop of `removeDuplicates` (lines 656–661): `keys` holds the strings seen,
`list` the strings kept. -/
def removeDuplicatesLoop : List String → List String → List String → List String
  | _, list, [] => list
  | keys, list, item :: rest =>
      if item ∈ keys then removeDuplicatesLoop keys list rest
      else removeDuplicatesLoop (item :: keys) (list ++ [item]) rest

/-- `filter.removeDuplicates(in)`. -/
def removeDuplicates (items : List String) : List String :=
  if items.length = 0 then [] else removeDuplicatesLoop [] [] items

/-- The first occurrence of each string of a list that is not in `seen`, in order. -/
def firstOccurrences (seen : List String) : List String → List String
  | [] => []
  | x :: xs => if x ∈ seen then firstOccurrences seen xs else x :: firstOccurrences (x :: seen) xs

section FirstOccurrences

variable {seen : List String} {xs : List String}

@[simp] theorem firstOccurrences_nil : firstOccurrences seen [] = [] := rfl

/-- The loop invariant: what the loop will append is `firstOccurrences keys` of
what is left of the input. -/
theorem removeDuplicatesLoop_eq (keys list items : List String) :
    removeDuplicatesLoop keys list items = list ++ firstOccurrences keys items := by
  induction items generalizing keys list with
  | nil => simp [removeDuplicatesLoop]
  | cons x xs ih => by_cases h : x ∈ keys <;> simp [removeDuplicatesLoop, firstOccurrences, h, ih]

theorem removeDuplicates_eq (items : List String) :
    removeDuplicates items = firstOccurrences [] items := by
  cases items with
  | nil => rfl
  | cons x xs => simp [removeDuplicates, removeDuplicatesLoop_eq]

theorem mem_firstOccurrences {x : String} :
    x ∈ firstOccurrences seen xs ↔ x ∈ xs ∧ x ∉ seen := by
  induction xs generalizing seen with
  | nil => simp
  | cons y ys ih =>
      by_cases hy : y ∈ seen
      · simp only [firstOccurrences, hy, if_true, ih, List.mem_cons]
        constructor
        · rintro ⟨h, hx⟩; exact ⟨.inr h, hx⟩
        · rintro ⟨rfl | h, hx⟩
          · exact absurd hy hx
          · exact ⟨h, hx⟩
      · simp only [firstOccurrences, hy, if_false, List.mem_cons, ih]
        by_cases hxy : x = y
        · subst hxy; simp [hy]
        · simp [hxy]

theorem firstOccurrences_nodup : (firstOccurrences seen xs).Nodup := by
  induction xs generalizing seen with
  | nil => exact List.nodup_nil
  | cons y ys ih =>
      by_cases hy : y ∈ seen
      · simpa [firstOccurrences, hy] using ih
      · simp only [firstOccurrences, hy, if_false, List.nodup_cons, mem_firstOccurrences]
        exact ⟨fun h => h.2 (List.mem_cons_self y seen), ih⟩

theorem firstOccurrences_sublist : List.Sublist (firstOccurrences seen xs) xs := by
  induction xs generalizing seen with
  | nil => exact List.Sublist.slnil
  | cons y ys ih =>
      by_cases hy : y ∈ seen
      · simpa [firstOccurrences, hy] using ih.cons y
      · simpa [firstOccurrences, hy] using ih.cons₂ y

/-- Only the strings of the input matter in `seen`. -/
theorem firstOccurrences_congr {s t : List String} (h : ∀ y ∈ xs, y ∈ s ↔ y ∈ t) :
    firstOccurrences s xs = firstOccurrences t xs := by
  induction xs generalizing s t with
  | nil => rfl
  | cons y ys ih =>
      have hs := h y (List.mem_cons_self y ys)
      have ht : ∀ z ∈ ys, z ∈ s ↔ z ∈ t := fun z hz => h z (List.mem_cons_of_mem y hz)
      by_cases hy : y ∈ s
      · simp [firstOccurrences, hy, hs.mp hy, ih ht]
      · have hyt : y ∉ t := fun h' => hy (hs.mpr h')
        simp only [firstOccurrences, hy, hyt, if_false]
        congr 1
        exact ih fun z hz => by simp [ht z hz]

/-- A list without duplicates that avoids `seen` is its own first occurrences. -/
theorem firstOccurrences_of_nodup (hxs : xs.Nodup) (hd : ∀ x ∈ xs, x ∉ seen) :
    firstOccurrences seen xs = xs := by
  induction xs generalizing seen with
  | nil => rfl
  | cons y ys ih =>
      rw [List.nodup_cons] at hxs
      have hy := hd y (List.mem_cons_self y ys)
      simp only [firstOccurrences, hy, if_false, List.cons.injEq, true_and]
      refine ih hxs.2 fun z hz hzs => ?_
      rcases List.mem_cons.mp hzs with rfl | h
      · exact hxs.1 hz
      · exact hd z (List.mem_cons_of_mem y hz) h

/-- Keeping first occurrences commutes with a filter. -/
theorem firstOccurrences_filter (p : String → Bool) :
    (firstOccurrences seen xs).filter p = firstOccurrences seen (xs.filter p) := by
  induction xs generalizing seen with
  | nil => rfl
  | cons y ys ih =>
      by_cases hy : y ∈ seen
      · by_cases hp : p y <;> simp [firstOccurrences, hy, hp, ih]
      · by_cases hp : p y
        · simp [firstOccurrences, hy, hp, ih]
        · have hny : ∀ z ∈ ys.filter p, z ∈ y :: seen ↔ z ∈ seen := fun z hz => by
            have : z ≠ y := fun e => by simp_all
            simp [this]
          simp [firstOccurrences, hy, hp, ih, firstOccurrences_congr hny]

end FirstOccurrences

theorem removeDuplicates_nodup (xs : List String) : (removeDuplicates xs).Nodup := by
  rw [removeDuplicates_eq]; exact firstOccurrences_nodup

theorem mem_removeDuplicates {xs : List String} {x : String} :
    x ∈ removeDuplicates xs ↔ x ∈ xs := by
  simp [removeDuplicates_eq, mem_firstOccurrences]

theorem removeDuplicates_sublist (xs : List String) : List.Sublist (removeDuplicates xs) xs := by
  rw [removeDuplicates_eq]; exact firstOccurrences_sublist

/-- On a list without duplicates `removeDuplicates` changes nothing. -/
theorem removeDuplicates_of_nodup {xs : List String} (h : xs.Nodup) : removeDuplicates xs = xs := by
  rw [removeDuplicates_eq]; exact firstOccurrences_of_nodup h fun _ _ => List.not_mem_nil _

theorem removeDuplicates_eq_nil {xs : List String} : removeDuplicates xs = [] ↔ xs = [] := by
  cases xs with
  | nil => exact iff_of_true rfl rfl
  | cons x xs =>
      refine iff_of_false (fun h => ?_) (List.cons_ne_nil x xs)
      simpa [h] using mem_removeDuplicates.mpr (List.mem_cons_self x xs)

theorem removeDuplicates_removeDuplicates (xs : List String) :
    removeDuplicates (removeDuplicates xs) = removeDuplicates xs :=
  removeDuplicates_of_nodup (removeDuplicates_nodup xs)

theorem removeDuplicates_filter (p : String → Bool) (xs : List String) :
    (removeDuplicates xs).filter p = removeDuplicates (xs.filter p) := by
  simp only [removeDuplicates_eq, firstOccurrences_filter]

/-! ## First occurrences by position

Read in the direction of the loop, the invariant says that a string appended to
the input is appended to the output exactly when it is new; by induction from
the end of the input, the output is the list of the strings of the input at the
positions where they occur for the first time. -/

/-- Appending a string to the input appends it to the output exactly when it is new. -/
theorem firstOccurrences_append_singleton (seen xs : List String) (x : String) :
    firstOccurrences seen (xs ++ [x]) =
      firstOccurrences seen xs ++ if x ∈ seen ∨ x ∈ xs then [] else [x] := by
  induction xs generalizing seen with
  | nil => by_cases hx : x ∈ seen <;> simp [firstOccurrences, hx]
  | cons y ys ih =>
      rw [List.cons_append]
      by_cases hy : y ∈ seen
      · have hx : x ∈ seen ∨ x ∈ y :: ys ↔ x ∈ seen ∨ x ∈ ys := by
          rw [List.mem_cons, ← or_assoc, or_iff_left_of_imp fun (h : x = y) => h ▸ hy]
        simp only [firstOccurrences, hy, if_true, ih, hx]
      · simp only [firstOccurrences, hy, if_false, ih, List.mem_cons, List.cons_append, or_assoc,
          or_left_comm]

theorem removeDuplicates_append_singleton (xs : List String) (x : String) :
    removeDuplicates (xs ++ [x]) = removeDuplicates xs ++ if x ∈ xs then [] else [x] := by
  simp [removeDuplicates_eq, firstOccurrences_append_singleton]

/-- The output is the input at the positions `i` where `xs[i]` is not among the
strings before it. -/
theorem removeDuplicates_eq_enum (xs : List String) :
    removeDuplicates xs = (xs.enum.filter fun p => p.2 ∉ xs.take p.1).map Prod.snd := by
  induction xs using List.reverseRecOn with
  | nil => rfl
  | append_singleton xs x ih =>
      have hpre : xs.enum.filter (fun p => p.2 ∉ (xs ++ [x]).take p.1) =
          xs.enum.filter fun p => p.2 ∉ xs.take p.1 := List.filter_congr fun p hp => by
        rw [List.take_append_of_le_length (List.fst_lt_of_mem_enum hp).le]
      rw [removeDuplicates_append_singleton, ih, List.enum_append, List.filter_append, hpre,
        List.enumFrom_singleton]
      by_cases hx : x ∈ xs <;> simp [hx]

example : removeDuplicates ["a", "b", "a", "c", "b", "a"] = ["a", "b", "c"] := by decide

/-- **`removeDuplicates` keeps the first occurrences.**  The output is the
subsequence of the input made of the strings at the positions where they occur
for the first time; so it has no duplicate, holds every string of the input, is a
sublist of it, and is its own deduplication. -/
theorem removeDuplicates_keeps_first_occurrences (xs : List String) :
    removeDuplicates xs = (xs.enum.filter fun p => p.2 ∉ xs.take p.1).map Prod.snd ∧
      (removeDuplicates xs).Nodup ∧ (∀ x, x ∈ removeDuplicates xs ↔ x ∈ xs) ∧
      List.Sublist (removeDuplicates xs) xs ∧
      removeDuplicates (removeDuplicates xs) = removeDuplicates xs :=
  ⟨removeDuplicates_eq_enum xs, removeDuplicates_nodup xs, fun _ => mem_removeDuplicates,
    removeDuplicates_sublist xs, removeDuplicates_removeDuplicates xs⟩

end Pirsch
