import Mathlib.Algebra.Order.Ring.Nat
import Mathlib.Algebra.Order.Ring.Int
import Mathlib.Data.List.Lex
import Mathlib.Data.List.Basic
import Mathlib.Data.List.Induction

/-! Runs of a deterministic system as lists of events, and events that meet a guard in
the state in which they happen. -/

namespace HostingService.Program

variable {σ ε : Type} {next : σ → ε → σ} {guard : σ → ε → Prop}

def Meets (next : σ → ε → σ) (guard : σ → ε → Prop) : σ → List ε → Prop
  | _, [] => True
  | state, event :: later => guard state event ∧ Meets next guard (next state event) later

instance Meets.decidable [∀ state event, Decidable (guard state event)] :
    ∀ state events, Decidable (Meets next guard state events)
  | _, [] => .isTrue trivial
  | state, event :: later =>
    have := Meets.decidable (next state event) later
    inferInstanceAs (Decidable (_ ∧ _))

namespace Meets
variable {state : σ} {events : List ε}

/-- What every guarded event preserves holds at the end of a run. -/
theorem invariant (holds : σ → Prop)
    (step : ∀ state event, guard state event → holds state → holds (next state event))
    (meets : Meets next guard state events) (start : holds state) :
    holds (events.foldl next state) := by
  induction events generalizing state with
  | nil => exact start
  | cons event later ih => exact ih meets.2 (step state event meets.1 start)

/-- A relation that guarded events stay in, from states with an invariant. -/
theorem related {holds : σ → Prop} {related : σ → σ → Prop} (refl : ∀ state, related state state)
    (trans : ∀ {first second third}, related first second → related second third →
      related first third)
    (step : ∀ state event, guard state event → holds state →
      holds (next state event) ∧ related state (next state event))
    (meets : Meets next guard state events) (start : holds state) :
    related state (events.foldl next state) := by
  induction events generalizing state with
  | nil => exact refl state
  | cons event later ih =>
    obtain ⟨kept, moved⟩ := step state event meets.1 start
    exact trans moved (ih meets.2 kept)

theorem always : Meets next (fun _ _ => True) state events := by
  induction events generalizing state with
  | nil => trivial
  | cons event later ih => exact ⟨trivial, ih⟩

/-- What guarded events do in every state of a run, from an invariant that they keep. -/
theorem along {holds : σ → Prop} {other : σ → ε → Prop}
    (step : ∀ state event, holds state → guard state event →
      holds (next state event) ∧ other state event)
    (meets : Meets next guard state events) (start : holds state) : Meets next other state events := by
  induction events generalizing state with
  | nil => trivial
  | cons event later ih =>
    obtain ⟨kept, does⟩ := step state event start meets.1
    exact ⟨does, ih meets.2 kept⟩

theorem append {later : List ε} : Meets next guard state (events ++ later) ↔
    Meets next guard state events ∧ Meets next guard (events.foldl next state) later := by
  induction events generalizing state with
  | nil => simp [Meets]
  | cons event rest ih => simp [Meets, ih, and_assoc]

end Meets

/-! ### The last change -/

section
variable {β : Type} (next : σ → ε → σ) (watch : σ → β) (guard : σ → ε → Prop)

/-- The last event of the run that changed what `watch` shows met the guard. -/
def LastChange (start : σ) (events : List ε) : Prop :=
  ∃ earlier event later, events = earlier ++ event :: later ∧
    guard (earlier.foldl next start) event ∧
    watch ((earlier ++ [event]).foldl next start) ≠ watch (earlier.foldl next start) ∧
    ∀ middle, middle <+: later → watch ((earlier ++ event :: middle).foldl next start) =
      watch ((earlier ++ [event]).foldl next start)

variable {next watch guard} {start : σ} {events : List ε}

theorem LastChange.event {event : ε} (met : guard (events.foldl next start) event)
    (changed : watch ((events ++ [event]).foldl next start) ≠ watch (events.foldl next start)) :
    LastChange next watch guard start (events ++ [event]) := by
  refine ⟨events, event, [], rfl, met, changed, fun middle short => ?_⟩
  rw [List.prefix_nil.mp short]

/-- An event that changes nothing leaves the last change what it is. -/
theorem LastChange.quiet {event : ε} (last : LastChange next watch guard start events)
    (same : watch ((events ++ [event]).foldl next start) = watch (events.foldl next start)) :
    LastChange next watch guard start (events ++ [event]) := by
  obtain ⟨earlier, change, later, rfl, met, changed, quiet⟩ := last
  refine ⟨earlier, change, later ++ [event], by simp, met, changed, fun middle short => ?_⟩
  rcases List.prefix_concat_iff.mp short with rfl | inside
  · rw [← quiet later List.prefix_rfl, ← same]
    simp
  · exact quiet middle inside

/-- If only events that meet the guard make the flag show, or change what is watched while it
shows, then the flag goes back to the last change. -/
theorem lastChange_of_step (flag : β → Prop) (holds : σ → Prop)
    (step : ∀ state event, holds state → holds (next state event) ∧
      (watch (next state event) ≠ watch state → flag (watch (next state event)) → guard state event))
    (initial : holds start) (unset : ¬ flag (watch start))
    (shown : flag (watch (events.foldl next start))) : LastChange next watch guard start events := by
  induction events using List.reverseRecOn with
  | nil => exact absurd shown unset
  | append_singleton earlier event ih =>
    have held : holds (earlier.foldl next start) :=
      Meets.always.invariant holds (fun state event _ now => (step state event now).1) initial
    have stepped : (earlier ++ [event]).foldl next start = next (earlier.foldl next start) event :=
      List.foldl_concat ..
    by_cases same : watch ((earlier ++ [event]).foldl next start) = watch (earlier.foldl next start)
    · exact (ih (same ▸ shown)).quiet same
    · refine LastChange.event ?_ same
      rw [stepped] at same shown
      exact (step _ event held).2 same shown

end

end HostingService.Program
