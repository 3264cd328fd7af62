import TabletDrain.Json.Reader
import TabletDrain.Proofs.Stepwise

/-! What a record says in each of its fields, whichever way it is written. `slots_eq_some_iff` says which
documents are records at all; a field that is left out reads as one that holds the document for its
default. -/
namespace TabletDrain.Json

variable {α : Type}

/-- An object that gives none of the fields twice, or a list that has no more items than there are
fields. -/
def IsRecord (names : List String) : Json → Prop
  | obj fields => ∀ name ∈ names, ((obj fields).occurrences name).length ≤ 1
  | arr items => items.length ≤ names.length
  | _ => False

/-- What stands in a field, which has a name in an object and a place in a list. -/
def fieldAt? (place : Nat) (name : String) : Json → Option Json
  | obj fields => ((obj fields).occurrences name).head?
  | arr items => items[place]?
  | _ => none

def Slot.value? : Slot → Option Json
  | given value => some value
  | missing | beyond => none

theorem readText_eq_some_iff {document : Json} {text : String} :
    readText document = some text ↔ document = .str text := by
  cases document <;> simp [readText]

theorem readNat_eq_some_iff {bound : Nat} {document : Json} {n : Nat} :
    readNat bound document = some n ↔ document = .num n ∧ n < bound := by
  rw [readNat, Option.map_eq_some_iff]
  constructor
  · rintro ⟨m, read, rfl⟩
    cases document with
    | num k =>
      simp only [readInt, Option.ite_none_right_eq_some, Bool.and_eq_true, decide_eq_true_eq,
        Option.some.injEq] at read
      obtain ⟨⟨low, high⟩, rfl⟩ := read
      rw [Int.toNat_of_nonneg low]
      exact ⟨rfl, (Int.toNat_lt low).mpr high⟩
    | _ => cases read
  · rintro ⟨rfl, small⟩
    refine ⟨n, if_pos ?_, Int.toNat_natCast n⟩
    rw [Bool.and_eq_true, decide_eq_true_eq, decide_eq_true_eq]
    exact ⟨Int.natCast_nonneg n, Int.ofNat_lt.mpr small⟩

theorem readAny_eq_some_iff {document value : Json} :
    readAny document = some value ↔ document = value ∧ value.isUsable = true := by
  rw [readAny, Option.ite_none_right_eq_some, Option.some.injEq]
  constructor
  · rintro ⟨usable, rfl⟩
    exact ⟨rfl, usable⟩
  · rintro ⟨rfl, usable⟩
    exact ⟨usable, rfl⟩

namespace Slot

theorem required_eq_some_iff {slot : Slot} {read : Json → Option α} {a : α} :
    slot.required read = some a ↔ ∃ value, slot.value? = some value ∧ read value = some a := by
  cases slot <;> simp [required, value?]

theorem orElse_eq_read {fallback : α} {read : Json → Option α} {default : Json}
    (reads : read default = some fallback) (slot : Slot) :
    slot.orElse fallback read = read (slot.value?.getD default) := by
  cases slot with
  | given value => rfl
  | missing | beyond => exact reads.symm

theorem orElse_text_iff {slot : Slot} {text : String} :
    slot.orElse "" readText = some text ↔ slot.value?.getD (.str "") = .str text := by
  rw [orElse_eq_read (show readText (.str "") = some "" from rfl), readText_eq_some_iff]

theorem orElse_nat_iff {slot : Slot} {bound n : Nat} (positive : 0 < bound) :
    slot.orElse 0 (readNat bound) = some n ↔ slot.value?.getD (.num 0) = .num n ∧ n < bound := by
  rw [orElse_eq_read (readNat_eq_some_iff.mpr ⟨rfl, positive⟩), readNat_eq_some_iff]
  rfl

theorem orElse_any_iff {slot : Slot} {value : Json} :
    slot.orElse .null readAny = some value ↔ slot.value?.getD .null = value ∧ value.isUsable = true := by
  rw [orElse_eq_read (show readAny .null = some .null from rfl), readAny_eq_some_iff]

end Slot

theorem slot?_eq_some_iff {name : String} {fields : List (String × Json)} {value : Option Json} :
    (∃ slot, slot? [name] fields = some slot ∧ slot.value? = value) ↔
      ((obj fields).occurrences name).length ≤ 1 ∧ ((obj fields).occurrences name).head? = value := by
  have named : (fun field : String × Json => [name].contains field.1) =
      fun field => decide (field.1 = name) := by
    funext field
    simp
  rw [slot?, occurrences, named]
  generalize (fields.filter fun field => decide (field.1 = name)) = given
  rcases given with _ | ⟨field, _ | ⟨second, others⟩⟩ <;> simp [Slot.value?]

private theorem slotsOfFields_eq_some_iff {names : List String} {fields : List (String × Json)}
    {values : List (Option Json)} :
    (∃ found, (names.map ([·])).mapM (slot? · fields) = some found ∧ found.map Slot.value? = values) ↔
      IsRecord names (obj fields) ∧
        (names.mapIdx fun place name => fieldAt? place name (obj fields)) = values := by
  induction names generalizing values with
  | nil => simp [IsRecord]
  | cons name rest ih =>
    rw [List.map_cons, List.mapIdx_cons]
    constructor
    · rintro ⟨found, read, rfl⟩
      rw [mapM_eq_some_iff, List.forall₂_cons_left_iff] at read
      obtain ⟨slot, others, first, further, rfl⟩ := read
      obtain ⟨once, held⟩ := slot?_eq_some_iff.mp ⟨slot, first, rfl⟩
      obtain ⟨isRecord, same⟩ := ih.mp ⟨others, mapM_eq_some_iff.mpr further, rfl⟩
      exact ⟨List.forall_mem_cons.mpr ⟨once, isRecord⟩, congrArg₂ List.cons held same⟩
    · rintro ⟨isRecord, rfl⟩
      obtain ⟨once, isRecord⟩ := List.forall_mem_cons.mp isRecord
      obtain ⟨slot, first, held⟩ := slot?_eq_some_iff.mpr ⟨once, rfl⟩
      obtain ⟨others, further, same⟩ := ih.mpr ⟨isRecord, rfl⟩
      exact ⟨slot :: others, mapM_eq_some_iff.mpr (.cons first (mapM_eq_some_iff.mp further)),
        congrArg₂ List.cons held same⟩

private theorem slotsOfItems_eq_some_iff {names : List String} {items : List Json}
    {values : List (Option Json)} :
    (∃ found, slotsOfItems names.length items = some found ∧ found.map Slot.value? = values) ↔
      IsRecord names (arr items) ∧
        (names.mapIdx fun place name => fieldAt? place name (arr items)) = values := by
  induction names generalizing items values with
  | nil => cases items <;> simp [slotsOfItems, IsRecord]
  | cons name rest ih =>
    have step (slot : Slot) (items : List Json) :
        (∃ found, (slotsOfItems rest.length items).map (slot :: ·) = some found ∧
          found.map Slot.value? = values) ↔ IsRecord rest (arr items) ∧
            slot.value? :: (rest.mapIdx fun place name => fieldAt? place name (arr items)) = values := by
      constructor
      · rintro ⟨found, read, rfl⟩
        obtain ⟨others, further, rfl⟩ := Option.map_eq_some_iff.mp read
        obtain ⟨isRecord, same⟩ := ih.mp ⟨others, further, rfl⟩
        exact ⟨isRecord, congrArg (slot.value? :: ·) same⟩
      · rintro ⟨isRecord, rfl⟩
        obtain ⟨others, further, same⟩ := ih.mpr ⟨isRecord, rfl⟩
        exact ⟨slot :: others, Option.map_eq_some_iff.mpr ⟨others, further, rfl⟩,
          congrArg (slot.value? :: ·) same⟩
    rw [List.mapIdx_cons]
    cases items with
    | nil =>
      rw [List.length_cons, slotsOfItems, step]
      simp [IsRecord, fieldAt?, Slot.value?]
    | cons item items =>
      rw [List.length_cons, slotsOfItems, step]
      simp [IsRecord, fieldAt?, Slot.value?]

theorem slots_eq_some_iff (names : List String) {document : Json} {values : List (Option Json)} :
    (∃ found, slots (names.map ([·])) document = some found ∧ found.map Slot.value? = values) ↔
      IsRecord names document ∧ (names.mapIdx fun place name => fieldAt? place name document) = values := by
  cases document with
  | obj fields => exact slotsOfFields_eq_some_iff
  | arr items =>
    rw [slots, List.length_map]
    exact slotsOfItems_eq_some_iff
  | _ => simp [slots, IsRecord]

end TabletDrain.Json
