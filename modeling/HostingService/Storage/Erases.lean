import HostingService.Storage.Disk

/-! Programs that remove keys from an answering store, and exactly which ones. -/

namespace HostingService.Storage

open Program Text

variable {Error : Type} (backend : Backend Error)

/-- The second store is the first without the keys in `gone`. -/
structure Without (gone : PyStr → Prop) (before after : Objects) : Prop where
  removed : ∀ key, gone key → after.lookup key = none
  kept : ∀ key, ¬ gone key → after.lookup key = before.lookup key

/-- Run on `before`, the program ends normally and has removed exactly `gone`. -/
def Erases (body : Prog StorageCall Error Unit) (gone : PyStr → Prop) (before : Objects) : Prop :=
  ∃ after, body.run (StorageCall.handle backend) (answering before) = (.ok (), answering after) ∧
    Without gone before after

variable {backend}

theorem lookup_eq_none_of_not_mem {objects : Objects} {key : PyStr} (absent : key ∉ objects) :
    objects.lookup key = none := AList.lookup_eq_none.mpr absent

theorem mem_of_lookup {objects : Objects} {key : PyStr} {content : Bytes}
    (stored : objects.lookup key = some content) : key ∈ objects :=
  AList.lookup_isSome.mp (by simp [stored])

theorem Shrinks.mem {first second : Objects} (shrinks : Shrinks first second) {key : PyStr}
    (stored : key ∈ second) : key ∈ first := by
  obtain ⟨content, found⟩ := Option.isSome_iff_exists.mp (AList.lookup_isSome.mpr stored)
  exact mem_of_lookup (shrinks key content found)

/-- Keys that are not stored do not matter. -/
theorem Erases.congr {body : Prog StorageCall Error Unit} {gone other : PyStr → Prop}
    {before : Objects} (erases : Erases backend body gone before)
    (same : ∀ key ∈ before, gone key ↔ other key) : Erases backend body other before := by
  obtain ⟨after, ran, removed, kept⟩ := erases
  refine ⟨after, ran, ⟨fun key leaves => ?_, fun key stays => ?_⟩⟩
  · by_cases stored : key ∈ before
    · exact removed key ((same key stored).mpr leaves)
    · by_cases erased : gone key
      · exact removed key erased
      · rw [kept key erased, lookup_eq_none_of_not_mem stored]
  · by_cases stored : key ∈ before
    · exact kept key fun erased => stays ((same key stored).mp erased)
    · by_cases erased : gone key
      · rw [removed key erased, lookup_eq_none_of_not_mem stored]
      · exact kept key erased

theorem erases_nothing (before : Objects) :
    Erases backend (.ret ()) (fun _ => False) before :=
  ⟨before, rfl, ⟨fun _ impossible => impossible.elim, fun _ _ => rfl⟩⟩

theorem without_erase (key : PyStr) (before : Objects) :
    Without (· = key) before (before.erase key) := by
  constructor
  · rintro _ rfl
    exact AList.lookup_erase _ _
  · intro other different
    exact AList.lookup_erase_ne different

/-- Without folders nothing stands in the way of a deletion. -/
theorem erases_delete (flat : backend.folders = false) (key : PyStr) (before : Objects) :
    Erases backend (Prog.perform (.delete key)) (· = key) before := by
  have free : (backend.folders && blocked before key) = false := by rw [flat, Bool.false_and]
  refine ⟨before.erase key, ?_, without_erase key before⟩
  rw [run_perform_answering, exec_delete_free backend free]

theorem Without.mem {before after : Objects} {gone : PyStr → Prop}
    (without : Without gone before after) {key : PyStr} (stored : key ∈ after) : key ∈ before := by
  obtain ⟨content, found⟩ := Option.isSome_iff_exists.mp (AList.lookup_isSome.mpr stored)
  by_cases erased : gone key
  · rw [without.removed key erased] at found
    contradiction
  · exact mem_of_lookup ((without.kept key erased).symm.trans found)

theorem Without.mem_iff {before after : Objects} {gone : PyStr → Prop}
    (without : Without gone before after) {key : PyStr} :
    key ∈ after ↔ key ∈ before ∧ ¬ gone key := by
  constructor
  · intro stored
    refine ⟨without.mem stored, fun erased => ?_⟩
    exact AList.lookup_eq_none.mp (without.removed key erased) stored
  · rintro ⟨stored, stays⟩
    rwa [← AList.lookup_isSome, without.kept key stays, AList.lookup_isSome]

theorem Erases.bind {first second : Prog StorageCall Error Unit} {gone later : PyStr → Prop}
    {before : Objects} {good : PyStr → Prop} (plain : ∀ key ∈ before, good key)
    (one : Erases backend first gone before)
    (two : ∀ after, (∀ key ∈ after, good key) → Erases backend second later after) :
    Erases backend (first >>= fun _ => second) (fun key => gone key ∨ later key) before := by
  obtain ⟨middle, ranFirst, erased⟩ := one
  obtain ⟨after, ranSecond, erasedLater⟩ :=
    two middle fun key stored => plain key (erased.mem stored)
  refine ⟨after, ?_, ⟨?_, ?_⟩⟩
  · rw [Prog.run_bind_ok _ ranFirst, ranSecond]
  · intro key leaves
    by_cases late : later key
    · exact erasedLater.removed key late
    · rw [erasedLater.kept key late]
      exact erased.removed key (leaves.resolve_right late)
  · intro key stays
    obtain ⟨early, late⟩ := not_or.mp stays
    rw [erasedLater.kept key late, erased.kept key early]

/-- A loop removes what its rounds remove; `good` is what the rounds need of the keys. -/
theorem Erases.forEach {ι : Type} {body : ι → Prog StorageCall Error Unit}
    {gone : ι → PyStr → Prop} {good : PyStr → Prop} {items : List ι} {before : Objects}
    (plain : ∀ key ∈ before, good key)
    (each : ∀ item ∈ items, ∀ objects : Objects, (∀ key ∈ objects, good key) →
      Erases backend (body item) (gone item) objects) :
    Erases backend (Prog.forEach body items) (fun key => ∃ item ∈ items, gone item key) before := by
  induction items generalizing before with
  | nil => exact (erases_nothing before).congr fun key _ => by simp
  | cons item items ih =>
    have first := each item (by simp) before plain
    have whole := first.bind plain fun after kept =>
      ih kept fun other member => each other (List.mem_cons_of_mem _ member)
    exact whole.congr fun key _ => by simp

/-- A loop over stored keys, each of them once, removes these keys. -/
theorem erases_stored {ι : Type} {name : ι → PyStr} {items : List ι} {before : Objects}
    (distinct : (items.map name).Nodup) (stored : ∀ item ∈ items, name item ∈ before) :
    Erases backend (Prog.forEach (fun item => Prog.perform (.delete (name item))) items)
      (fun key => ∃ item ∈ items, name item = key) before := by
  induction items generalizing before with
  | nil => exact (erases_nothing before).congr fun key _ => by simp
  | cons item items ih =>
    rw [List.map_cons, List.nodup_cons] at distinct
    obtain ⟨fresh, distinct⟩ := distinct
    have first : (Prog.perform (.delete (name item)) : Prog StorageCall Error Unit).run
        (StorageCall.handle backend) (answering before) =
        (.ok (), answering (before.erase (name item))) := by
      rw [run_perform_answering, exec_delete_stored backend (stored item (List.mem_cons_self ..))]
    have others : ∀ other ∈ items, name other ∈ before.erase (name item) := by
      intro other member
      refine AList.mem_erase.mpr ⟨fun same => fresh ?_, stored other (List.mem_cons_of_mem _ member)⟩
      exact same ▸ List.mem_map_of_mem member
    obtain ⟨after, ran, removed, kept⟩ := ih distinct others
    refine ⟨after, (Prog.run_bind_ok _ first _).trans ran, ?_, ?_⟩
    · rintro key ⟨other, member, rfl⟩
      by_cases later : ∃ next ∈ items, name next = name other
      · exact removed _ later
      · rw [kept _ later]
        rcases List.mem_cons.mp member with rfl | inside
        · exact AList.lookup_erase _ _
        · exact absurd ⟨other, inside, rfl⟩ later
    · intro key stays
      have apart : key ≠ name item := fun same => stays ⟨item, List.mem_cons_self .., same.symm⟩
      rw [kept key fun later => ?_, AList.lookup_erase_ne apart]
      obtain ⟨other, member, same⟩ := later
      exact stays ⟨other, List.mem_cons_of_mem _ member, same⟩

end HostingService.Storage
