import Mathlib.Data.List.Nodup
import TabletDrain.Json.Reader
import TabletDrain.Proofs.Keyed
import TabletDrain.Proofs.Stepwise

/-! Records, lists and maps that were written, as their readers see them. A reader of a record finds in
each slot what was written under its name, and the slot missing where nothing was. -/
namespace TabletDrain.Json

variable {α : Type}

def Slot.ofOption : Option Json → Slot
  | some value => given value
  | none => missing

theorem Slot.of_orElse {slot : Slot} {fallback value : α} {read : Json → Option α}
    (found : slot.orElse fallback read = some value) :
    value = fallback ∨ ∃ document, read document = some value := by
  cases slot with
  | given document => exact .inr ⟨document, found⟩
  | missing | beyond => exact .inl (Option.some.inj found).symm

section Slots

variable {fields : List (String × Option Json)} {name : String} {value : Option Json}

private def written (fields : List (String × Option Json)) : List (String × Json) :=
  fields.filterMap fun (name, value) => value.map fun v => (name, v)

private theorem filter_written_of_not_mem (absent : name ∉ fields.map Prod.fst) :
    ((written fields).filter fun field => [name].contains field.1) = [] := by
  rw [List.filter_eq_nil_iff]
  intro field member
  obtain ⟨source, inside, same⟩ := List.mem_filterMap.mp member
  obtain ⟨v, _, rfl⟩ := Option.map_eq_some_iff.mp same
  simp only [List.contains_eq_mem, List.mem_singleton, decide_eq_true_eq]
  rintro rfl
  exact absent (List.mem_map_of_mem inside)

private theorem filter_written (distinct : (fields.map Prod.fst).Nodup) (member : (name, value) ∈ fields) :
    ((written fields).filter fun field => [name].contains field.1) =
      (value.map fun v => (name, v)).toList := by
  induction fields with
  | nil => cases member
  | cons field rest ih =>
    obtain ⟨first, held⟩ := field
    obtain ⟨fresh, distinct⟩ := List.nodup_cons.mp distinct
    have head : written ((first, held) :: rest) = (held.map fun v => (first, v)).toList ++ written rest := by
      cases held <;> rfl
    rw [head, List.filter_append]
    rcases List.mem_cons.mp member with same | inside
    · cases same
      rw [filter_written_of_not_mem fresh, List.append_nil]
      cases value <;> simp
    · have listed : name ∈ rest.map Prod.fst := List.mem_map_of_mem inside
      have other : first ≠ name := fun same => fresh (same ▸ listed)
      rw [ih distinct inside]
      cases held <;> simp [other]

theorem slot?_ofFields (distinct : (fields.map Prod.fst).Nodup) (member : (name, value) ∈ fields) :
    slot? [name] (written fields) = some (.ofOption value) := by
  unfold slot?
  rw [filter_written distinct member]
  cases value <;> rfl

/-- Each slot of a written record holds what was written under its name. -/
theorem slots_ofFields (fields : List (String × Option Json)) (distinct : (fields.map Prod.fst).Nodup) :
    slots (fields.map fun field => [field.1]) (ofFields fields) =
      some (fields.map fun field => .ofOption field.2) := by
  change (fields.map fun field => [field.1]).mapM (fun spellings => slot? spellings (written fields)) = _
  rw [mapM_eq_some_iff, List.forall₂_map_left_iff, List.forall₂_map_right_iff]
  exact List.forall₂_same.mpr fun field member => slot?_ofFields distinct member

theorem optional_ofOption (read : Json → Option α) (write : α → Json) (value : Option α)
    (reads : ∀ a, read (write a) = some a) (isSome : ∀ a, write a ≠ null) :
    (Slot.ofOption (value.map write)).optional read = some value := by
  cases value with
  | none => rfl
  | some a =>
    change readNullable read (write a) = _
    have nullable : readNullable read (write a) = (read (write a)).map some := by
      unfold readNullable
      split
      · rename_i null
        exact absurd null (isSome a)
      · rfl
    rw [nullable, reads, Option.map_some]

end Slots

theorem readList_map (read : Json → Option α) (write : α → Json) {items : List α}
    (reads : ∀ item ∈ items, read (write item) = some item) :
    readList read (arr (items.map write)) = some items := by
  change (items.map write).mapM read = _
  rw [mapM_eq_some_iff, List.forall₂_map_left_iff]
  exact List.forall₂_same.mpr reads

theorem exists_of_mem_readList {read : Json → Option α} {document : Json} {items : List α}
    (reads : readList read document = some items) {item : α} (member : item ∈ items) :
    ∃ value, read value = some item := by
  cases document with
  | arr values =>
    obtain ⟨value, _, same⟩ := exists_of_mem_right (mapM_eq_some_iff.mp reads) member
    exact ⟨value, same⟩
  | _ => cases reads

theorem readMap_map (read : Json → Option α) (write : α → Json) (map : Keyed α)
    (reads : ∀ value, read (write value) = some value) :
    readMap read (obj (map.entries.map fun entry => (entry.1, write entry.2))) = some map := by
  have all : ((map.entries.map fun entry => (entry.1, write entry.2)).mapM
      fun entry => (read entry.2).map fun v => (entry.1, v)) = some map.entries := by
    rw [mapM_eq_some_iff, List.forall₂_map_left_iff]
    refine List.forall₂_same.mpr fun entry _ => ?_
    simp [reads]
  change (List.mapM _ _ >>= fun entries => some (Keyed.ofList entries)) = _
  rw [all]
  exact congrArg some map.ofList_entries

end TabletDrain.Json
