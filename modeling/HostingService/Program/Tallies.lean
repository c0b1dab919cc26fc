import Mathlib.Algebra.BigOperators.Group.List.Basic
import Mathlib.Algebra.Order.Ring.Nat
import Mathlib.Data.List.Nodup

/-! Counts and sums over the rows of a table, taken group by group. -/

namespace HostingService.Program

section
variable {α κ : Type} [DecidableEq κ] {key : α → κ} {keys : List κ} {rows : List α}

/-- One row is in one group. -/
theorem sum_single (unique : keys.Nodup) {group : κ} (listed : group ∈ keys) (size : Nat) :
    (keys.map fun other => if group = other then size else 0).sum = size := by
  induction keys with
  | nil => exact absurd listed List.not_mem_nil
  | cons first rest ih =>
    obtain ⟨absent, later⟩ := List.nodup_cons.mp unique
    rw [List.map_cons, List.sum_cons]
    by_cases same : group = first
    · subst same
      have zeros : (rest.map fun other => if group = other then size else 0) = rest.map fun _ => 0 := by
        refine List.map_congr_left fun other member => if_neg ?_
        rintro rfl
        exact absent member
      simp [zeros]
    · rw [if_neg same, Nat.zero_add]
      exact ih later ((List.mem_cons.mp listed).resolve_left same)

/-- Sums of all groups add up to the sum of the table. -/
theorem sum_groups (unique : keys.Nodup) (covers : ∀ row ∈ rows, key row ∈ keys) (size : α → Nat) :
    (keys.map fun group => ((rows.filter fun row => key row = group).map size).sum).sum =
      (rows.map size).sum := by
  induction rows with
  | nil => simp
  | cons row rows ih =>
    have step (group : κ) : (((row :: rows).filter fun row => key row = group).map size).sum =
        (if key row = group then size row else 0) +
          ((rows.filter fun row => key row = group).map size).sum := by
      rw [List.filter_cons]
      by_cases same : key row = group
      · simp [same]
      · simp [same]
    simp only [step]
    rw [List.sum_map_add, sum_single unique (covers row List.mem_cons_self),
      ih fun other member => covers other (List.mem_cons_of_mem _ member), List.map_cons, List.sum_cons]

/-- Counts of all groups add up to the count of the table. -/
theorem count_groups (unique : keys.Nodup) (covers : ∀ row ∈ rows, key row ∈ keys) (test : α → Bool) :
    (keys.map fun group => ((rows.filter fun row => key row = group).filter test).length).sum =
      (rows.filter test).length := by
  have ones (rows : List α) : rows.length = (rows.map fun _ => 1).sum := by simp
  have inside : ∀ row ∈ rows.filter test, key row ∈ keys :=
    fun row member => covers row (List.mem_filter.mp member).1
  have grouped := sum_groups unique inside fun _ => 1
  simpa only [List.filter_comm test, ← ones] using grouped

end

end HostingService.Program
