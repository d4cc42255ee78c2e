import Mathlib.Data.Vector.Defs
import Mathlib.Data.List.Basic

/-!
# The generated columns of `ch-go`

`ColInt32` and `ColIPv6` (`col_int32_gen.go`, `col_ipv6_gen.go`) come out of one
template of `ch-gen-col`: a column is the Go slice of its rows, `Append` and
`AppendArr` extend it, `Reset` cuts it to length zero (keeping its capacity,
which no reader sees), `Rows` is its length and `Row(i)` indexes it.  The
template is modelled once, as `Col α`, and each generated type is `Col` at its
element type.

`run_data` says what a column holds after any sequence of writes: the rows it
had, when no `Reset` came, and then every row appended after the last `Reset`,
in order.  `run_row` reads the rows back by index.

The helpers `LowCardinality`, `Array`, `Nullable` and `NewArr…` wrap the column
in types of `ch-go` that are not in the sources, and are left out.
-/

namespace Pirsch.Proto

/-- A column generated from the template: the slice of its rows. -/
structure Col (α : Type) where
  data : List α
deriving DecidableEq, Repr

/-- `ColInt32`, a column of `int32`. -/
abbrev ColInt32 := Col (BitVec 32)

/-- `IPv6`, the `[16]byte` of an address. -/
abbrev IPv6 := Mathlib.Vector UInt8 16

/-- `ColIPv6`, a column of `IPv6`. -/
abbrev ColIPv6 := Col IPv6

namespace Col

variable {α : Type}

/-- `c.Rows()`. -/
def rows (c : Col α) : Nat := c.data.length

/-- `c.Reset()`. -/
def reset (_ : Col α) : Col α := ⟨[]⟩

/-- `c.Row(i)`; `none` is the index-out-of-range panic. -/
def row (c : Col α) (i : Int) : Option α := if 0 ≤ i then c.data[i.toNat]? else none

/-- `c.Append(v)`. -/
def append (c : Col α) (v : α) : Col α := ⟨c.data ++ [v]⟩

/-- `c.AppendArr(vs)`. -/
def appendArr (c : Col α) (vs : List α) : Col α := ⟨c.data ++ vs⟩

/-! ## Runs of writes -/

/-- The calls that write to a column. -/
inductive Write (α : Type) where
  | append (v : α)
  | appendArr (vs : List α)
  | reset
deriving DecidableEq, Repr

/-- Whether a write is a `Reset`. -/
def Write.isReset : Write α → Bool
  | .reset => true
  | _ => false

/-- The rows a write appends. -/
def Write.values : Write α → List α
  | .append v => [v]
  | .appendArr vs => vs
  | .reset => []

/-- One write. -/
def step (c : Col α) : Write α → Col α
  | .append v => c.append v
  | .appendArr vs => c.appendArr vs
  | .reset => c.reset

/-- The writes `ws`, in order. -/
def run (c : Col α) (ws : List (Write α)) : Col α := ws.foldl step c

/-- The writes after the last `Reset`. -/
def sinceReset (ws : List (Write α)) : List (Write α) :=
  (ws.reverse.takeWhile fun w => !w.isReset).reverse

theorem run_append_singleton (c : Col α) (ws : List (Write α)) (w : Write α) :
    c.run (ws ++ [w]) = (c.run ws).step w := by
  simp only [run, List.foldl_append, List.foldl_cons, List.foldl_nil]

theorem sinceReset_append_singleton (ws : List (Write α)) (w : Write α) :
    sinceReset (ws ++ [w]) = if w.isReset then [] else sinceReset ws ++ [w] := by
  cases w <;> simp [sinceReset, Write.isReset]

/-- One write, against the description of the whole run. -/
theorem step_data (c : Col α) (w : Write α) :
    (c.step w).data = if w.isReset then [] else c.data ++ w.values := by
  cases w <;> rfl

/-- **A column holds what was appended since the last `Reset`.**  After the
writes `ws`, a column holds its own rows when `ws` has no `Reset`, followed by
every row appended after the last `Reset`, in order. -/
theorem run_data (c : Col α) (ws : List (Write α)) :
    (c.run ws).data =
      (if ws.any Write.isReset then [] else c.data) ++ (sinceReset ws).flatMap Write.values := by
  induction ws using List.reverseRecOn with
  | nil => simp [run, sinceReset]
  | append_singleton ws w ih =>
    rw [run_append_singleton, step_data, ih, sinceReset_append_singleton, List.any_append]
    cases h : w.isReset <;> simp [h]

example : (run ⟨[1]⟩ [.append 2, .reset, .appendArr [3, 4], .append 5] : ColInt32).data = [3, 4, 5] := rfl

/-- `Row(i)` reads the `i`-th row of the run's description, and panics past its end. -/
theorem run_row (c : Col α) (ws : List (Write α)) (i : Nat) :
    (c.run ws).row i =
      ((if ws.any Write.isReset then [] else c.data) ++ (sinceReset ws).flatMap Write.values)[i]? := by
  rw [row, if_pos (by omega), Int.toNat_ofNat, run_data]

end Col

end Pirsch.Proto
