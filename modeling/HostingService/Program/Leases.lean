import Mathlib.Algebra.Order.Ring.Nat
import Mathlib.Algebra.Order.Ring.Int
import Mathlib.Data.List.Lex
import Mathlib.Logic.Function.Basic
import Mathlib.Order.Defs.LinearOrder

/-! Keys whose value vanishes at a deadline, as in a store with expiring keys: a key is
granted when nobody holds it, and released by whoever shows its token. -/

namespace HostingService.Program

structure Lease (τ T : Type) where
  token : τ
  expires : T
  deriving DecidableEq

abbrev Leases (κ τ T : Type) := κ → Option (Lease τ T)

namespace Leases

variable {κ τ T : Type} [LinearOrder T]

/-- The lease on the key, unless it has ended. -/
def held (leases : Leases κ τ T) (now : T) (key : κ) : Option (Lease τ T) :=
  (leases key).filter (now < ·.expires)

/-- Write the lease if the key is free. -/
def grant [DecidableEq κ] (leases : Leases κ τ T) (now : T) (key : κ) (lease : Lease τ T) :
    Bool × Leases κ τ T :=
  if (leases.held now key).isSome then (false, leases)
  else (true, Function.update leases key (some lease))

/-- Delete the key if it holds the token. -/
def release [DecidableEq κ] [DecidableEq τ] (leases : Leases κ τ T) (now : T) (key : κ) (token : τ) :
    Bool × Leases κ τ T :=
  if (leases.held now key).any (·.token = token) then (true, Function.update leases key none)
  else (false, leases)

variable {leases : Leases κ τ T} {now later : T} {key other : κ} {token : τ} {lease new : Lease τ T}

theorem held_eq_some : leases.held now key = some lease ↔ leases key = some lease ∧ now < lease.expires := by
  simp [held, Option.filter_eq_some_iff]

theorem held_eq_none : leases.held now key = none ↔
    ∀ lease, leases key = some lease → lease.expires ≤ now := by
  simp [held, Option.filter_eq_none_iff]

/-- A lease stays until its deadline. -/
theorem held_later (holds : leases.held now key = some lease) (running : later < lease.expires) :
    leases.held later key = some lease :=
  held_eq_some.mpr ⟨(held_eq_some.mp holds).1, running⟩

section
variable [DecidableEq κ]

/-- A grant displaces no lease. -/
theorem held_grant (holds : leases.held now other = some lease) :
    (leases.grant now key new).2.held now other = some lease := by
  rw [grant]
  split
  · exact holds
  · rename_i free
    rcases eq_or_ne other key with rfl | different
    · rw [holds] at free
      exact absurd rfl free
    · dsimp only
      rwa [held, Function.update_of_ne different]

theorem grant_granted (granted : (leases.grant now key new).1 = true) :
    (leases.grant now key new).2 key = some new := by
  rw [grant] at granted ⊢
  split at granted
  · cases granted
  · rename_i free
    rw [if_neg free]
    exact Function.update_self ..

/-- A lease after a grant was there before, or is the new one. -/
theorem grant_cases (stored : (leases.grant now key new).2 other = some lease) :
    leases other = some lease ∨
      (leases.grant now key new).1 = true ∧ other = key ∧ lease = new := by
  rw [grant] at stored ⊢
  split at stored
  · exact .inl stored
  · rename_i free
    rw [if_neg free]
    dsimp only at stored
    rcases eq_or_ne other key with rfl | different
    · rw [Function.update_self] at stored
      exact .inr ⟨rfl, rfl, (Option.some.inj stored).symm⟩
    · rw [Function.update_of_ne different] at stored
      exact .inl stored

variable [DecidableEq τ]

/-- A release deletes no key with another token. -/
theorem held_release (holds : leases.held now other = some lease) (foreign : lease.token ≠ token) :
    (leases.release now key token).2.held now other = some lease := by
  rw [release]
  split
  · rename_i own
    rcases eq_or_ne other key with rfl | different
    · rw [holds] at own
      exact absurd (by simpa using own) foreign
    · dsimp only
      rwa [held, Function.update_of_ne different]
  · exact holds

/-- What a release deletes is the key with the token. -/
theorem release_removed (stored : leases other = some lease)
    (removed : (leases.release now key token).2 other = none) : other = key ∧ lease.token = token := by
  rw [release] at removed
  split at removed
  · rename_i own
    rcases eq_or_ne other key with rfl | different
    · rcases holds : leases.held now other with _ | found
      · rw [holds] at own
        cases own
      · rw [holds] at own
        have same : leases other = some found := (held_eq_some.mp holds).1
        rw [stored] at same
        cases same
        exact ⟨rfl, by simpa using own⟩
    · dsimp only at removed
      rw [Function.update_of_ne different, stored] at removed
      cases removed
  · exact absurd (stored.symm.trans removed) (Option.some_ne_none lease)

theorem release_stored (stored : (leases.release now key token).2 other = some lease) :
    leases other = some lease := by
  rw [release] at stored
  split at stored
  · dsimp only at stored
    rcases eq_or_ne other key with rfl | different
    · rw [Function.update_self] at stored
      cases stored
    · rwa [Function.update_of_ne different] at stored
  · exact stored

end

end Leases

end HostingService.Program
