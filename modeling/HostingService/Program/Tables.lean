import Mathlib.Algebra.Order.Ring.Nat
import Mathlib.Algebra.Order.Ring.Int
import Mathlib.Data.List.Lex
import Mathlib.Data.List.Nodup

/-! Tables as lists of rows: what a write leaves of the rows that pass a test. -/

namespace HostingService.Program

variable {α β : Type} {test : α → Bool} {hit : α → Prop} [DecidablePred hit] {change : α → α}
  {rows : List α}

/-- `UPDATE ... WHERE hit` -/
def update (hit : α → Prop) [DecidablePred hit] (change : α → α) (rows : List α) : List α :=
  rows.map fun row => if hit row then change row else row

theorem mem_update {row : α} (member : row ∈ update hit change rows) :
    ∃ old ∈ rows, row = change old ∧ hit old ∨ row = old ∧ ¬ hit old := by
  obtain ⟨old, present, rfl⟩ := List.mem_map.mp member
  by_cases struck : hit old
  · exact ⟨old, present, .inl ⟨if_pos struck, struck⟩⟩
  · exact ⟨old, present, .inr ⟨if_neg struck, struck⟩⟩

theorem update_map {key : α → β} (kept : ∀ row ∈ rows, hit row → key (change row) = key row) :
    (update hit change rows).map key = rows.map key := by
  rw [update, List.map_map]
  refine List.map_congr_left fun row member => ?_
  simp only [Function.comp_apply]
  split
  · rename_i struck
    exact kept row member struck
  · rfl

/-- An update of rows that fail the test, before and after it. -/
theorem filter_update (outside : ∀ row ∈ rows, hit row →
    test row = false ∧ test (change row) = false) :
    (update hit change rows).filter test = rows.filter test := by
  induction rows with
  | nil => rfl
  | cons row rows ih =>
    have later := ih fun other member => outside other (List.mem_cons_of_mem row member)
    have split : update hit change (row :: rows) =
        (if hit row then change row else row) :: update hit change rows := rfl
    rw [split]
    by_cases struck : hit row
    · obtain ⟨before, after⟩ := outside row List.mem_cons_self struck
      rw [if_pos struck, List.filter_cons, List.filter_cons, before, after]
      exact later
    · rw [if_neg struck, List.filter_cons, List.filter_cons, later]

/-- A search by a key that the update keeps. -/
theorem find?_update (kept : ∀ row, test (change row) = test row) :
    (update hit change rows).find? test =
      (rows.find? test).map fun row => if hit row then change row else row := by
  have same : (fun row => test (if hit row then change row else row)) = test := by
    funext row
    split
    · exact kept row
    · rfl
  rw [update, List.find?_map, Function.comp_def, same]

/-- An update that brings the rows it hits under the test. -/
theorem countP_update (moved : ∀ row ∈ rows, hit row → test row = false ∧ test (change row) = true) :
    (update hit change rows).countP test = rows.countP test + rows.countP fun row => hit row := by
  induction rows with
  | nil => rfl
  | cons row rows ih =>
    have later := ih fun other member => moved other (List.mem_cons_of_mem row member)
    have split : update hit change (row :: rows) =
        (if hit row then change row else row) :: update hit change rows := rfl
    rw [split, List.countP_cons, List.countP_cons, List.countP_cons, later]
    by_cases struck : hit row
    · obtain ⟨before, after⟩ := moved row List.mem_cons_self struck
      simp only [struck, if_true, before, after, decide_true, Bool.false_eq_true, if_false]
      omega
    · simp only [struck, if_false, decide_false, Bool.false_eq_true]
      omega

theorem countP_update_of_kept (kept : ∀ row ∈ rows, hit row → test (change row) = test row) :
    (update hit change rows).countP test = rows.countP test := by
  rw [update, List.countP_map]
  refine List.countP_congr fun row member => ?_
  simp only [Function.comp_apply]
  split
  · rename_i struck
    rw [kept row member struck]
  · rfl

/-- A key that is used once hits one row at most. -/
theorem countP_key {key : α → β} [DecidableEq β] (once : (rows.map key).Nodup) {sought : β}
    (present : ∃ row ∈ rows, key row = sought) : rows.countP (fun row => key row = sought) = 1 := by
  obtain ⟨row, member, same⟩ := present
  have counted := List.count_eq_one_of_mem once (List.mem_map.mpr ⟨row, member, same⟩)
  rw [List.count, List.countP_map] at counted
  rw [← counted]
  exact List.countP_congr fun row _ => by simp

/-- Deleting rows by a key removes what a search by that key finds, and nothing else. -/
theorem find?_delete {key : α → β} [DecidableEq β] (gone sought : β) :
    (rows.filter fun row => key row ≠ gone).find? (fun row => key row = sought) =
      if sought = gone then none else rows.find? fun row => key row = sought := by
  rw [List.find?_filter]
  by_cases same : sought = gone
  · rw [if_pos same, List.find?_eq_none]
    intro row _ found
    simp [same] at found
  · rw [if_neg same]
    congr 1
    funext row
    by_cases found : key row = sought
    · simp [found, same]
    · simp [found]

/-- New rows that fail the test. -/
theorem filter_append_outside {added : List α} (fails : ∀ row ∈ added, test row = false) :
    (rows ++ added).filter test = rows.filter test := by
  have none : added.filter test = [] :=
    List.filter_eq_nil_iff.mpr fun row member passes => by simp [fails row member] at passes
  rw [List.filter_append, none, List.append_nil]

theorem filter_concat {row : α} (fails : test row = false) :
    (rows ++ [row]).filter test = rows.filter test :=
  filter_append_outside fun _ member => List.mem_singleton.mp member ▸ fails

/-- Tables that agree on some rows agree on fewer. -/
theorem filter_narrow {wide : α → Bool} {others : List α} (same : others.filter wide = rows.filter wide)
    (narrower : ∀ row, test row = true → wide row = true) :
    others.filter test = rows.filter test := by
  have split (list : List α) : (list.filter wide).filter test = list.filter test := by
    rw [List.filter_filter]
    refine List.filter_congr fun row _ => ?_
    cases passes : test row with
    | false => rfl
    | true => simpa using narrower row passes
  rw [← split others, same, split]

/-- Every row that passes the test stays. -/
theorem filter_delete {keep : α → Bool} (kept : ∀ row ∈ rows, test row = true → keep row = true) :
    (rows.filter keep).filter test = rows.filter test := by
  rw [List.filter_filter]
  refine List.filter_congr fun row member => ?_
  cases passes : test row with
  | false => rfl
  | true => simpa using kept row member passes

end HostingService.Program
