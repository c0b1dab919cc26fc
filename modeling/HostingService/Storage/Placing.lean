import HostingService.Storage.Disk

/-! Which keys can be stored one after another next to what a store holds. -/

namespace HostingService.Storage

open Program Text

variable {Error : Type} {backend : Backend Error}

/-- No name is refused, and where folders exist by themselves no key is a folder above
another one, or clashes with what is held. -/
structure Backend.Fits (backend : Backend Error) (held : PyStr → Prop) (keys : List PyStr) :
    Prop where
  named : ∀ key ∈ keys, backend.refuses key = none
  apart : backend.folders = true → ∀ key ∈ keys, ∀ other, held other ∨ other ∈ keys →
    ¬ Clashing other key

/-- One more key, next to what is held. -/
structure Backend.Takes (backend : Backend Error) (held : PyStr → Prop) (key : PyStr) : Prop where
  named : backend.refuses key = none
  apart : backend.folders = true → ∀ other, held other → ¬ Clashing other key

theorem refusal_eq_none {objects : Objects} {key : PyStr} :
    backend.refusal objects key = none ↔ backend.Takes (· ∈ objects) key := by
  have free : (backend.folders && blocked objects key) = false ↔
      (backend.folders = true → ∀ other ∈ objects, ¬ Clashing other key) := by
    rw [Bool.and_eq_false_imp, ← Bool.not_eq_true, blocked_iff]
    simp
  rw [Backend.refusal, Option.or_eq_none_iff, ite_eq_right_iff]
  constructor
  · rintro ⟨named, open_⟩
    exact ⟨named, free.mp (by simpa using open_)⟩
  · rintro ⟨named, apart⟩
    exact ⟨named, by simp [free.mpr apart]⟩

theorem Backend.Takes.congr {held other : PyStr → Prop} {key : PyStr}
    (same : ∀ stored, stored ≠ key → (held stored ↔ other stored)) :
    backend.Takes held key ↔ backend.Takes other key := by
  have one {first second : PyStr → Prop} (alike : ∀ stored, stored ≠ key → second stored → first stored)
      (takes : backend.Takes first key) : backend.Takes second key := by
    refine ⟨takes.named, fun folders stored present clash => ?_⟩
    by_cases itself : stored = key
    · exact Clashing.irrefl key (itself ▸ clash)
    · exact takes.apart folders stored (alike stored itself present) clash
  exact ⟨one fun stored apart => (same stored apart).mpr, one fun stored apart => (same stored apart).mp⟩

theorem Backend.fits_nil (held : PyStr → Prop) : backend.Fits held [] :=
  ⟨fun _ member => absurd member List.not_mem_nil, fun _ _ member => absurd member List.not_mem_nil⟩

theorem Backend.fits_cons {held : PyStr → Prop} {key : PyStr} {keys : List PyStr} :
    backend.Fits held (key :: keys) ↔
      backend.Takes held key ∧ backend.Fits (fun other => key = other ∨ held other) keys := by
  constructor
  · intro fits
    have listed := List.mem_cons_self (a := key) (l := keys)
    refine ⟨⟨fits.named key listed, fun folders other present => ?_⟩, ⟨?_, ?_⟩⟩
    · exact fits.apart folders key listed other (.inl present)
    · exact fun other member => fits.named other (List.mem_cons_of_mem _ member)
    · intro folders later member other present
      refine fits.apart folders later (List.mem_cons_of_mem _ member) other ?_
      rcases present with (rfl | old) | inside
      · exact .inr listed
      · exact .inl old
      · exact .inr (List.mem_cons_of_mem _ inside)
  · rintro ⟨takes, fits⟩
    refine ⟨?_, ?_⟩
    · intro other member
      rcases List.mem_cons.mp member with rfl | inside
      · exact takes.named
      · exact fits.named other inside
    · intro folders later member other present
      rcases List.mem_cons.mp member with rfl | inside
      · rcases present with old | among
        · exact takes.apart folders other old
        · rcases List.mem_cons.mp among with rfl | deeper
          · exact Clashing.irrefl other
          · exact fun clash => fits.apart folders other deeper later (.inl (.inl rfl)) clash.symm
      · refine fits.apart folders later inside other ?_
        rcases present with old | among
        · exact .inl (.inr old)
        · rcases List.mem_cons.mp among with rfl | deeper
          · exact .inl (.inl rfl)
          · exact .inr deeper

theorem Backend.Fits.congr {held other : PyStr → Prop} {keys : List PyStr}
    (same : ∀ key, held key ↔ other key) : backend.Fits held keys ↔ backend.Fits other keys := by
  rw [funext fun key => propext (same key)]

end HostingService.Storage
