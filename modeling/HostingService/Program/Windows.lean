import Mathlib.Algebra.Order.Ring.Nat
import Mathlib.Algebra.Order.Ring.Int
import Mathlib.Data.List.Lex
import Mathlib.Algebra.Order.Group.Basic
import Mathlib.Data.List.DropRight
import Mathlib.Data.Int.Order.Basic

/-! Sliding windows over recorded times: what a history, the newest time first, has in the
window that ends now, and how many times that were admitted by such a count can lie together. -/

namespace HostingService.Program.Windows

variable {T : Type} [LinearOrder T]

/-- The newest time first, and none after `now`. -/
def Recorded (now : T) (times : List T) : Prop := times.Pairwise (· ≥ ·) ∧ ∀ t ∈ times, t ≤ now

theorem Recorded.mono {now later : T} {times : List T} (recorded : Recorded now times) (passes : now ≤ later) :
    Recorded later times :=
  ⟨recorded.1, fun t member => (recorded.2 t member).trans passes⟩

theorem Recorded.cons {now : T} {times : List T} (recorded : Recorded now times) : Recorded now (now :: times) :=
  ⟨List.pairwise_cons.mpr ⟨recorded.2, recorded.1⟩, List.forall_mem_cons.mpr ⟨le_rfl, recorded.2⟩⟩

variable [AddCommGroup T]

/-- The times in `(now - window, now]`. -/
def recent (window now : T) (times : List T) : Nat :=
  times.countP fun t => now - window < t ∧ t ≤ now

/-- Drop from the end what has left the window. -/
def prune (window now : T) (history : List T) : List T := history.rdropWhile (· ≤ now - window)

/-- Each time was admitted: fewer than `limit` earlier ones lay in its window. -/
def Admitted (limit : Int) (window : T) : List T → Prop
  | [] => True
  | t :: earlier => recent window t earlier < limit ∧ Admitted limit window earlier

variable {limit : Int} {window now : T} {times history dropped : List T}

theorem prune_eq_filter (sorted : history.Pairwise (· ≥ ·)) :
    prune window now history = history.filter (now - window < ·) := by
  induction history using List.reverseRecOn with
  | nil => rfl
  | append_singleton front last ih =>
    obtain ⟨front_sorted, _, above⟩ := List.pairwise_append.mp sorted
    by_cases old : last ≤ now - window
    · have gone : decide (now - window < last) = false := by simpa using old
      rw [prune, List.rdropWhile_concat_pos _ _ _ (by simpa using old), List.filter_append,
        List.filter_singleton, gone, Bool.cond_false, List.append_nil]
      exact ih front_sorted
    · have all : ∀ t ∈ front ++ [last], decide (now - window < t) = true := by
        intro t member
        rw [List.mem_append, List.mem_singleton] at member
        apply decide_eq_true
        rcases member with before | rfl
        · exact (not_le.mp old).trans_le (above t before last (by simp))
        · exact not_le.mp old
      rw [prune, List.rdropWhile_concat_neg _ _ _ (by simpa using old), List.filter_eq_self.mpr all]

/-- A pruned history counts the window of all the times, when those it lacks have left it. -/
theorem length_prune (recorded : Recorded now (history ++ dropped))
    (gone : ∀ t ∈ dropped, t ≤ now - window) :
    (prune window now history).length = recent window now (history ++ dropped) := by
  have sorted := (List.pairwise_append.mp recorded.1).1
  have none : dropped.countP (fun t => now - window < t ∧ t ≤ now) = 0 := by
    apply List.countP_eq_zero.mpr
    intro t member
    simp [gone t member]
  rw [recent, List.countP_append, none, Nat.add_zero, prune_eq_filter sorted,
    ← List.countP_eq_length_filter]
  apply List.countP_congr
  intro t member
  simp [recorded.2 t (List.mem_append_left _ member)]

theorem prune_prefix (window now : T) (history : List T) :
    ∃ popped, history = prune window now history ++ popped ∧ ∀ t ∈ popped, t ≤ now - window := by
  induction history using List.reverseRecOn with
  | nil => exact ⟨[], rfl, fun _ member => absurd member List.not_mem_nil⟩
  | append_singleton front last ih =>
    by_cases old : last ≤ now - window
    · obtain ⟨popped, parts, gone⟩ := ih
      refine ⟨popped ++ [last], ?_, ?_⟩
      · rw [prune, List.rdropWhile_concat_pos _ _ _ (by simpa using old), ← List.append_assoc]
        exact congrArg (· ++ [last]) parts
      · intro t member
        rw [List.mem_append, List.mem_singleton] at member
        rcases member with before | rfl
        · exact gone t before
        · exact old
    · refine ⟨[], ?_, fun _ member => absurd member List.not_mem_nil⟩
      rw [prune, List.rdropWhile_concat_neg _ _ _ (by simpa using old), List.append_nil]

/-- Admitted times that lie closer together than a window are at most `limit`. -/
theorem Admitted.countP_le (admitted : Admitted limit window times)
    (sorted : times.Pairwise (· ≥ ·)) {within : T → Bool}
    (narrow : ∀ s t, within s = true → within t = true → t - window < s) :
    times.countP within ≤ limit.toNat := by
  induction times with
  | nil => exact Nat.zero_le _
  | cons t earlier ih =>
    obtain ⟨newest, older⟩ := List.pairwise_cons.mp sorted
    cases inside : within t with
    | false =>
      rw [List.countP_cons_of_neg (by simp [inside])]
      exact ih admitted.2 older
    | true =>
      have fewer : earlier.countP within ≤ recent window t earlier := by
        apply List.countP_mono_left
        intro s member place
        simpa using ⟨narrow s t place inside, newest s member⟩
      have room := admitted.1
      rw [List.countP_cons_of_pos inside]
      omega

/-- Records, the newest first, of which two neighbours lie together in the window only where
the newer one is not plain or the older one is spent: the plain ones in it are at most one
more than the spent ones. -/
theorem countP_spaced {α : Type*} {R : α → α → Prop} {plain spent low high : α → Bool}
    {records : List α} (chain : records.IsChain R)
    (sinks : ∀ newer older, R newer older → high newer = true → high older = true)
    (rises : ∀ newer older, R newer older → low older = true → low newer = true)
    (tight : ∀ newer older, R newer older → high newer = true → low older = true →
      plain newer = true → spent older = true) :
    records.countP (fun record => low record && high record && plain record) ≤
      records.countP (fun record => low record && high record && spent record) + 1 := by
  -- what is left of the window once a record has fallen below it
  have fallen {newest : α} {rest : List α} (chain : (newest :: rest).IsChain R)
      (below : low newest = false) :
      (newest :: rest).countP (fun record => low record && high record && plain record) = 0 := by
    induction rest generalizing newest with
    | nil => simp [below]
    | cons older rest ih =>
      obtain ⟨near, chain⟩ := List.isChain_cons_cons.mp chain
      have lower : low older = false :=
        Bool.eq_false_iff.mpr fun low => Bool.eq_false_iff.mp below (rises _ _ near low)
      rw [List.countP_cons, ih chain lower]
      simp [below]
  -- the newest record pays for nothing, so its own being spent is not needed
  have counted {newest : α} {rest : List α} (chain : (newest :: rest).IsChain R) :
      (newest :: rest).countP (fun record => low record && high record && plain record) ≤
        rest.countP (fun record => low record && high record && spent record) + 1 := by
    induction rest generalizing newest with
    | nil => exact List.countP_le_length
    | cons older rest ih =>
      obtain ⟨near, later⟩ := List.isChain_cons_cons.mp chain
      have fewer := ih later
      have more : rest.countP (fun record => low record && high record && spent record) ≤
          (older :: rest).countP (fun record => low record && high record && spent record) := by
        rw [List.countP_cons]
        exact Nat.le_add_right _ _
      rw [List.countP_cons]
      by_cases inside : low newest = true ∧ high newest = true ∧ plain newest = true
      · obtain ⟨above, below, unpaid⟩ := inside
        rw [if_pos (by simp [above, below, unpaid])]
        rcases lower : low older with _ | _
        · rw [fallen later lower]
          omega
        · have still := sinks _ _ near below
          have paid := tight _ _ near below lower unpaid
          have counted : (older :: rest).countP (fun record => low record && high record && spent record) =
              rest.countP (fun record => low record && high record && spent record) + 1 :=
            List.countP_cons_of_pos (by simp [lower, still, paid])
          omega
      · rw [if_neg (by simpa [and_assoc] using inside)]
        omega
  cases records with
  | nil => exact Nat.zero_le _
  | cons newest rest =>
    refine (counted chain).trans (Nat.add_le_add_right ?_ 1)
    rw [List.countP_cons]
    exact Nat.le_add_right _ _

end HostingService.Program.Windows
