/-! Maps whose keys are texts. The entries are kept in ascending order of their keys, by code point,
which is also the order of the UTF-8 bytes; so two maps with the same content are equal, and going
through a map meets the keys in a fixed order. `get?_insert`, `get?_erase` and `get?_map` say what
is found after each change. -/
namespace TabletDrain

universe u v

structure Keyed (α : Type u) where
  entries : List (String × α)
  ascending : (entries.map Prod.fst).Pairwise (· < ·)

namespace Keyed

variable {α : Type u} {β : Type v}

theorem ext {a b : Keyed α} (h : a.entries = b.entries) : a = b := by
  cases a; cases b; cases h; rfl

instance [DecidableEq α] : DecidableEq (Keyed α) := fun a b =>
  if h : a.entries = b.entries then .isTrue (ext h) else .isFalse fun e => h (e ▸ rfl)

instance [Repr α] : Repr (Keyed α) := ⟨fun map n => reprPrec map.entries n⟩

def empty : Keyed α := ⟨[], .nil⟩

instance : Inhabited (Keyed α) := ⟨empty⟩

def keys (map : Keyed α) : List String := map.entries.map Prod.fst

def values (map : Keyed α) : List α := map.entries.map Prod.snd

def isEmpty (map : Keyed α) : Bool := map.entries.isEmpty

def find (key : String) : List (String × α) → Option α
  | [] => none
  | (k, value) :: rest => if k = key then some value else find key rest

def get? (map : Keyed α) (key : String) : Option α := find key map.entries

def contains (map : Keyed α) (key : String) : Bool := (map.get? key).isSome

/-- Puts an entry in its place in a list of ascending entries, over one of the same key. -/
def place (key : String) (value : α) : List (String × α) → List (String × α)
  | [] => [(key, value)]
  | (k, old) :: rest =>
    if key < k then (key, value) :: (k, old) :: rest
    else if key = k then (key, value) :: rest
    else (k, old) :: place key value rest

theorem fst_of_mem_place {key k : String} {value : α} {entries : List (String × α)}
    (h : k ∈ (place key value entries).map Prod.fst) : k = key ∨ k ∈ entries.map Prod.fst := by
  induction entries with
  | nil => simpa [place] using h
  | cons entry rest ih =>
    obtain ⟨first, old⟩ := entry
    unfold place at h
    split at h
    · simpa using h
    · split at h
      · rename_i same
        simp only [List.map_cons, List.mem_cons] at h ⊢
        rcases h with h | h
        · exact .inl h
        · exact .inr (.inr h)
      · simp only [List.map_cons, List.mem_cons] at h ⊢
        rcases h with h | h
        · exact .inr (.inl h)
        · rcases ih h with h | h
          · exact .inl h
          · exact .inr (.inr h)

theorem find_place (key k : String) (value : α) (entries : List (String × α)) :
    find k (place key value entries) = if key = k then some value else find k entries := by
  induction entries with
  | nil => rfl
  | cons entry rest ih =>
    obtain ⟨first, old⟩ := entry
    unfold place
    split
    · rfl
    · split
      · rename_i same
        subst same
        by_cases h : key = k <;> simp [find, h]
      · rename_i other
        by_cases h : first = k
        · subst h
          simp [find, other]
        · simp [find, ih, h]

theorem find_filter (keep : String → Bool) (k : String) (entries : List (String × α)) :
    find k (entries.filter fun entry => keep entry.1)
      = if keep k then find k entries else none := by
  induction entries with
  | nil => simp [find]
  | cons entry rest ih =>
    obtain ⟨first, old⟩ := entry
    by_cases h : first = k
    · subst h
      by_cases kept : keep first <;> simp [find, kept, ih]
    · by_cases kept : keep first <;> simp [find, kept, ih, h]

theorem ascending_place (key : String) (value : α) {entries : List (String × α)}
    (h : (entries.map Prod.fst).Pairwise (· < ·)) :
    ((place key value entries).map Prod.fst).Pairwise (· < ·) := by
  induction entries with
  | nil => simp [place]
  | cons entry rest ih =>
    obtain ⟨first, old⟩ := entry
    simp only [List.map_cons, List.pairwise_cons] at h
    unfold place
    split
    · rename_i before
      simp only [List.map_cons, List.pairwise_cons, List.mem_cons]
      refine ⟨fun k hk => ?_, h⟩
      rcases hk with hk | hk
      · exact hk ▸ before
      · exact String.lt_trans before (h.1 k hk)
    · split
      · rename_i same
        subst same
        simpa only [List.map_cons, List.pairwise_cons] using h
      · rename_i notBefore other
        simp only [List.map_cons, List.pairwise_cons]
        refine ⟨fun k hk => ?_, ih h.2⟩
        rcases fst_of_mem_place hk with hk | hk
        · subst hk
          rcases Std.lt_trichotomy first k with after | same | before
          · exact after
          · exact absurd same.symm other
          · exact absurd before notBefore
        · exact h.1 k hk

/-- The map with a value under a key, over any value it had there. -/
def insert (map : Keyed α) (key : String) (value : α) : Keyed α :=
  ⟨place key value map.entries, ascending_place key value map.ascending⟩

def erase (map : Keyed α) (key : String) : Keyed α :=
  ⟨map.entries.filter fun entry => entry.1 ≠ key,
    map.ascending.sublist (List.filter_sublist.map Prod.fst)⟩

def filter (keep : String → α → Bool) (map : Keyed α) : Keyed α :=
  ⟨map.entries.filter fun entry => keep entry.1 entry.2,
    map.ascending.sublist (List.filter_sublist.map Prod.fst)⟩

def map (f : α → β) (keyed : Keyed α) : Keyed β :=
  ⟨keyed.entries.map fun entry => (entry.1, f entry.2), by
    rw [List.map_map]
    exact keyed.ascending⟩

@[simp] theorem get?_empty (k : String) : (empty : Keyed α).get? k = none := rfl

theorem get?_insert (map : Keyed α) (key k : String) (value : α) :
    (map.insert key value).get? k = if key = k then some value else map.get? k :=
  find_place key k value map.entries

theorem get?_erase (map : Keyed α) (key k : String) :
    (map.erase key).get? k = if key = k then none else map.get? k := by
  have h := find_filter (fun name => decide (name ≠ key)) k map.entries
  by_cases same : key = k
  · subst same
    simpa [get?, erase] using h
  · simpa [get?, erase, same, Ne.symm same] using h

theorem get?_map (f : α → β) (keyed : Keyed α) (k : String) :
    (keyed.map f).get? k = (keyed.get? k).map f := by
  obtain ⟨entries, ascending⟩ := keyed
  simp only [get?, map]
  clear ascending
  induction entries with
  | nil => rfl
  | cons entry rest ih => by_cases h : entry.1 = k <;> simp [find, h, ih]

/-- The entries of a list; of two with one key the later stays. -/
def ofList (entries : List (String × α)) : Keyed α :=
  entries.foldl (fun map entry => map.insert entry.1 entry.2) empty

end Keyed

end TabletDrain
