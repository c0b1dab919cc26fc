import Mathlib.Algebra.Order.Ring.Nat
import Mathlib.Data.List.Sort

/-! Tables listed newest first in pages of one size, read page after page while the table
changes. -/

namespace HostingService.Program

section
variable {α κ : Type} [LinearOrder κ]

/-- The highest key first. -/
def newestFirst (key : α → κ) (rows : List α) : List α :=
  rows.insertionSort fun first second => key second ≤ key first

/-- Pages are counted from zero. -/
def page (size number : Nat) (rows : List α) : List α := (rows.drop (number * size)).take size

/-- How many rows are listed before the row. -/
def rank (key : α → κ) (row : α) (rows : List α) : Nat := rows.countP fun other => key row < key other

variable {key : α → κ} {rows : List α} {row : α} {size : Nat}

/-! ### Newest rows first -/

theorem mem_newestFirst : row ∈ newestFirst key rows ↔ row ∈ rows := List.mem_insertionSort _

theorem newestFirst_perm (key : α → κ) (rows : List α) : (newestFirst key rows).Perm rows :=
  List.perm_insertionSort _ rows

theorem pairwise_newestFirst (key : α → κ) (rows : List α) :
    (newestFirst key rows).Pairwise fun first second => key second ≤ key first := by
  have total : Std.Total fun first second : α => key second ≤ key first :=
    ⟨fun first second => le_total (key second) (key first)⟩
  have trans : IsTrans α fun first second => key second ≤ key first :=
    ⟨fun _ _ _ one two => two.trans one⟩
  exact List.pairwise_insertionSort _ rows

/-- In a list with the highest key first, a row stands where its rank says. -/
theorem getElem?_rank (sorted : rows.Pairwise fun first second => key second < key first)
    (member : row ∈ rows) : rows[rank key row rows]? = some row := by
  induction rows with
  | nil => exact absurd member List.not_mem_nil
  | cons head tail ih =>
    obtain ⟨above, rest⟩ := List.pairwise_cons.mp sorted
    rcases List.mem_cons.mp member with rfl | inside
    · have first : rank key row (row :: tail) = 0 := by
        refine List.countP_eq_zero.mpr fun other listed => ?_
        rcases List.mem_cons.mp listed with rfl | later
        · simp
        · simpa using (above other later).le
      rw [first]
      rfl
    · have later : rank key row (head :: tail) = rank key row tail + 1 := by
        rw [rank, List.countP_cons_of_pos (by simpa using above row inside)]
        rfl
      rw [later, List.getElem?_cons_succ]
      exact ih rest inside

theorem getElem?_newestFirst (unique : (rows.map key).Nodup) (member : row ∈ rows) :
    (newestFirst key rows)[rank key row rows]? = some row := by
  have perm := newestFirst_perm key rows
  have sorted : (newestFirst key rows).Pairwise fun first second => key second < key first := by
    have keys : (newestFirst key rows).Pairwise fun first second => key first ≠ key second :=
      List.pairwise_map.mp ((perm.map key).nodup_iff.mpr unique)
    exact (pairwise_newestFirst key rows).imp₂ (fun _ _ le other => lt_of_le_of_ne le other.symm) keys
  have same : rank key row (newestFirst key rows) = rank key row rows := perm.countP_eq _
  rw [← same]
  exact getElem?_rank sorted (mem_newestFirst.mpr member)

/-! ### A table that changes -/

/-- Rows that are added push a row back at most. -/
theorem rank_append (rows more : List α) : rank key row rows ≤ rank key row (rows ++ more) := by
  rw [rank, rank, List.countP_append]
  exact Nat.le_add_right _ _

/-- The row keeps its place when only rows behind it go. -/
theorem rank_filter {keep : α → Bool} (kept : ∀ other ∈ rows, key row < key other → keep other = true) :
    rank key row (rows.filter keep) = rank key row rows := by
  rw [rank, rank, List.countP_filter]
  refine List.countP_congr fun other member => ?_
  constructor
  · intro both
    exact (Bool.and_eq_true _ _ ▸ both).1
  · intro above
    rw [above, kept other member (by simpa using above)]
    rfl

theorem mem_page {number place : Nat} (stands : rows[place]? = some row) (low : number * size ≤ place)
    (high : place < (number + 1) * size) : row ∈ page size number rows := by
  rw [Nat.succ_mul] at high
  refine List.mem_of_getElem? (i := place - number * size) ?_
  rw [page, List.getElem?_take_of_lt (by omega), List.getElem?_drop, Nat.add_sub_cancel' low, stands]

/-- A row that only moves back is on one of the pages that are read one after the other, up to
a page that reaches the end of the list. -/
theorem seen_of_walk {lists : Nat → List α} {place : Nat → Nat} {last : Nat}
    (stands : ∀ number ≤ last, (lists number)[place number]? = some row)
    (back : ∀ number < last, place number ≤ place (number + 1))
    (ends : (lists last).length ≤ (last + 1) * size) :
    ∃ number ≤ last, row ∈ page size number (lists number) := by
  by_contra unseen
  have missed : ∀ number ≤ last, row ∉ page size number (lists number) :=
    fun number within seen => unseen ⟨number, within, seen⟩
  -- the row is always behind the page that is read
  have behind : ∀ number ≤ last, (number + 1) * size ≤ place number := by
    intro number
    induction number with
    | zero =>
      intro within
      by_contra early
      exact missed 0 within (mem_page (stands 0 within) (by omega) (by omega))
    | succ number ih =>
      intro within
      by_contra early
      have before := (ih (by omega)).trans (back number (by omega))
      exact missed (number + 1) within (mem_page (stands _ within) before (by omega))
  have inside := (List.getElem?_eq_some_iff.mp (stands last le_rfl)).1
  have past := behind last le_rfl
  omega

end

end HostingService.Program
