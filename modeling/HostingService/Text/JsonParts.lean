import HostingService.Text.Json

/-! The values inside a JSON value, at any depth, and values free of given keys
and texts. -/

namespace HostingService.Text

namespace Json

/-- Neither a list nor an object. -/
def Plain : Json → Prop
  | .arr _ | .obj _ => False
  | _ => True

/-- Induction over the elements of lists and the entries of objects. -/
theorem induct {motive : Json → Prop} (plain : ∀ value, Plain value → motive value)
    (arr : ∀ items, (∀ item ∈ items, motive item) → motive (.arr items))
    (obj : ∀ fields : JsonObject, (∀ entry ∈ fields, motive entry.2) → motive (.obj fields)) :
    ∀ value, motive value := by
  apply @Json.rec motive (fun items => ∀ item ∈ items, motive item)
    (fun fields => ∀ entry ∈ fields, motive entry.2) (fun entry => motive entry.2)
  case null => exact plain _ trivial
  case bool => exact fun _ => plain _ trivial
  case int => exact fun _ => plain _ trivial
  case float => exact fun _ => plain _ trivial
  case infinite => exact plain _ trivial
  case nan => exact plain _ trivial
  case str => exact fun _ => plain _ trivial
  case arr => exact arr
  case obj => exact obj
  case mk => exact fun _ _ same => same
  case nil => exact fun _ member => absurd member List.not_mem_nil
  case nil => exact fun _ member => absurd member List.not_mem_nil
  case cons => exact fun _ _ first rest => List.forall_mem_cons.mpr ⟨first, rest⟩
  case cons => exact fun _ _ first rest => List.forall_mem_cons.mpr ⟨first, rest⟩

/-- `part` occurs in the value, at any depth. -/
inductive Within (part : Json) : Json → Prop where
  | here : Within part part
  | item {items : List Json} {item : Json} :
      item ∈ items → Within part item → Within part (.arr items)
  | entry {fields : JsonObject} {entry : PyStr × Json} :
      entry ∈ fields → Within part entry.2 → Within part (.obj fields)

/-- At no depth an object key in `keys` or a string value in `texts`. -/
structure Free (keys texts : PyStr → Prop) (value : Json) : Prop where
  keys : ∀ fields : JsonObject, Within (.obj fields) value → ∀ entry ∈ fields, ¬ keys entry.1
  texts : ∀ text, Within (.str text) value → ¬ texts text

variable {keys texts : PyStr → Prop} {items : List Json} {fields : JsonObject} {value : Json}

theorem Free.within {part : Json} (free : Free keys texts value) (inside : Within part value) :
    Free keys texts part := by
  induction inside with
  | here => exact free
  | item member _ ih =>
    exact ih ⟨fun _ place => free.keys _ (.item member place),
      fun _ place => free.texts _ (.item member place)⟩
  | entry member _ ih =>
    exact ih ⟨fun _ place => free.keys _ (.entry member place),
      fun _ place => free.texts _ (.entry member place)⟩

theorem free_str {text : PyStr} : Free keys texts (.str text) ↔ ¬ texts text := by
  constructor
  · intro free
    exact free.texts text .here
  · intro absent
    constructor
    · intro _ inside
      cases inside
    · intro _ inside
      cases inside
      exact absent

theorem free_arr : Free keys texts (.arr items) ↔ ∀ item ∈ items, Free keys texts item := by
  constructor
  · intro free item member
    exact free.within (.item member .here)
  · intro all
    constructor
    · intro _ inside
      cases inside with
      | item member place => exact (all _ member).keys _ place
    · intro _ inside
      cases inside with
      | item member place => exact (all _ member).texts _ place

theorem free_obj : Free keys texts (.obj fields) ↔
    ∀ entry ∈ fields, ¬ keys entry.1 ∧ Free keys texts entry.2 := by
  constructor
  · intro free entry member
    exact ⟨free.keys _ .here _ member, free.within (.entry member .here)⟩
  · intro all
    constructor
    · intro _ inside
      cases inside with
      | here => exact fun entry member => (all entry member).1
      | entry member place => exact (all _ member).2.keys _ place
    · intro _ inside
      cases inside with
      | entry member place => exact (all _ member).2.texts _ place

end Json

/-- `fields[key] = value` -/
def JsonObject.set (fields : JsonObject) (key : PyStr) (value : Json) : JsonObject :=
  if fields.any (·.1 = key) then
    fields.map fun entry => if entry.1 = key then (key, value) else entry
  else fields ++ [(key, value)]

namespace JsonObject
variable {fields : JsonObject} {key : PyStr} {value : Json}

theorem set_subset {entry : PyStr × Json} (member : entry ∈ fields.set key value) :
    entry = (key, value) ∨ entry ∈ fields := by
  rw [set] at member
  split at member
  · obtain ⟨old, place, same⟩ := List.mem_map.mp member
    split at same
    · exact .inl same.symm
    · exact .inr (same ▸ place)
  · rw [List.mem_append, List.mem_singleton] at member
    exact member.symm

theorem mem_set : (key, value) ∈ fields.set key value := by
  rw [set]
  split
  · rename_i present
    obtain ⟨old, place, same⟩ := List.any_eq_true.mp present
    exact List.mem_map.mpr ⟨old, place, if_pos (by simpa using same)⟩
  · exact List.mem_append_right _ (List.mem_singleton_self _)

/-- An entry put into a free object keeps it free exactly when it is free itself. -/
theorem free_set {keys texts : PyStr → Prop} (free : Json.Free keys texts (.obj fields)) :
    Json.Free keys texts (.obj (fields.set key value)) ↔
      ¬ keys key ∧ Json.Free keys texts value := by
  rw [Json.free_obj] at free ⊢
  constructor
  · intro all
    exact all (key, value) mem_set
  · intro allowed entry member
    rcases set_subset member with rfl | old
    · exact allowed
    · exact free entry old

end JsonObject

end HostingService.Text
