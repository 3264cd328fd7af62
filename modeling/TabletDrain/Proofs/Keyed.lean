import TabletDrain.Keyed
import Mathlib.Data.List.Induction
import Mathlib.Data.List.Sort

/-! Maps from texts, by what is found under a key: membership of an entry and look-up are the same,
look-ups determine the map, and each operation has one equation for them. -/
namespace TabletDrain.Keyed

universe u v

variable {α : Type u} {β : Type v}

theorem find_eq_some_iff {entries : List (String × α)} (distinct : (entries.map Prod.fst).Nodup)
    {key : String} {value : α} : find key entries = some value ↔ (key, value) ∈ entries := by
  induction entries with
  | nil => simp [find]
  | cons entry rest ih =>
    obtain ⟨first, old⟩ := entry
    simp only [List.map_cons, List.nodup_cons] at distinct
    by_cases same : first = key
    · subst same
      have absent : (first, value) ∉ rest := fun member =>
        distinct.1 (List.mem_map_of_mem member)
      simp [find, absent, eq_comm]
    · simp [find, same, Ne.symm same, ih distinct.2]

theorem find_map (f : α → β) (key : String) (entries : List (String × α)) :
    find key (entries.map (Prod.map id f)) = (find key entries).map f := by
  induction entries with
  | nil => rfl
  | cons entry rest ih => by_cases same : entry.1 = key <;> simp [find, same, ih]

theorem nodup_keys (map : Keyed α) : (map.entries.map Prod.fst).Nodup := by
  apply map.ascending.imp
  intro a b before same
  exact String.lt_irrefl b (same ▸ before)

private theorem mem_map_fst_of_find {entries : List (String × α)} {key : String} {value : α}
    (found : find key entries = some value) : key ∈ entries.map Prod.fst := by
  induction entries with
  | nil => cases found
  | cons entry rest ih =>
    rw [List.map_cons, List.mem_cons]
    by_cases same : entry.1 = key
    · exact .inl same.symm
    · rw [find, if_neg same] at found
      exact .inr (ih found)

theorem mem_entries_iff {map : Keyed α} {key : String} {value : α} :
    (key, value) ∈ map.entries ↔ map.get? key = some value :=
  (find_eq_some_iff map.nodup_keys).symm

theorem get?_of_mem {map : Keyed α} {entry : String × α} (member : entry ∈ map.entries) :
    map.get? entry.1 = some entry.2 := mem_entries_iff.mp member

theorem nodup_entries (map : Keyed α) : map.entries.Nodup := map.nodup_keys.of_map

theorem ext_get? {a b : Keyed α} (same : ∀ key, a.get? key = b.get? key) : a = b := by
  apply ext
  have permuted : a.entries.Perm b.entries := by
    rw [List.perm_ext_iff_of_nodup a.nodup_entries b.nodup_entries]
    intro entry
    obtain ⟨key, value⟩ := entry
    rw [mem_entries_iff, mem_entries_iff, same]
  have left : a.entries.Pairwise fun x y => x.1 < y.1 := List.pairwise_map.mp a.ascending
  have right : b.entries.Pairwise fun x y => x.1 < y.1 := List.pairwise_map.mp b.ascending
  refine permuted.eq_of_pairwise ?_ left right
  intro x y _ _ before after
  exact absurd (String.lt_trans before after) (String.lt_irrefl _)

theorem isEmpty_iff {map : Keyed α} : map.isEmpty = true ↔ ∀ key, map.get? key = none := by
  constructor
  · intro isEmpty key
    rw [get?, List.isEmpty_iff.mp isEmpty]
    rfl
  · intro absent
    have same : map = empty := ext_get? absent
    rw [same]
    rfl

theorem mem_keys_iff {map : Keyed α} {key : String} :
    key ∈ map.keys ↔ ∃ value, map.get? key = some value := by
  rw [keys, List.mem_map]
  constructor
  · intro found
    obtain ⟨entry, member, same⟩ := found
    exact ⟨entry.2, same ▸ get?_of_mem member⟩
  · intro found
    obtain ⟨value, found⟩ := found
    exact ⟨(key, value), mem_entries_iff.mpr found, rfl⟩

theorem keys_eq_singleton {map : Keyed α} {key : String}
    (only : ∀ other, other ∈ map.keys ↔ other = key) : map.keys = [key] := by
  have distinct : map.keys.Nodup := map.nodup_keys
  rw [← List.perm_singleton, List.perm_ext_iff_of_nodup distinct (List.nodup_singleton key)]
  intro other
  rw [List.mem_singleton]
  exact only other

theorem entries_eq_singleton_iff {map : Keyed α} {key : String} {value : α} :
    map.entries = [(key, value)] ↔ ∀ k v, map.get? k = some v ↔ k = key ∧ v = value := by
  constructor
  · intro alone k v
    rw [← mem_entries_iff, alone, List.mem_singleton, Prod.mk.injEq]
  · intro only
    rw [← List.perm_singleton,
      List.perm_ext_iff_of_nodup map.nodup_entries (List.nodup_singleton (key, value))]
    intro entry
    obtain ⟨k, v⟩ := entry
    rw [mem_entries_iff, only, List.mem_singleton, Prod.mk.injEq]

theorem keys_eq_of_isSome_eq {a : Keyed α} {b : Keyed β}
    (same : ∀ key, (a.get? key).isSome = (b.get? key).isSome) : a.keys = b.keys := by
  have plain : a.map (fun _ => ()) = b.map (fun _ => ()) := by
    apply ext_get?
    intro key
    have same := same key
    rw [get?_map, get?_map]
    cases first : a.get? key <;> cases second : b.get? key <;> simp_all
  have keys := congrArg keys plain
  simpa [Keyed.keys, Keyed.map, Function.comp_def] using keys

theorem get?_filter (keep : String → α → Bool) (map : Keyed α) (key : String) :
    (map.filter keep).get? key = (map.get? key).filter (keep key) := by
  apply Option.ext
  intro value
  rw [← mem_entries_iff, Option.filter_eq_some_iff, ← mem_entries_iff]
  exact List.mem_filter

/-- At most one entry has the key. -/
theorem filter_entries_key (map : Keyed α) (key : String) :
    (map.entries.filter fun entry => entry.1 = key) = ((map.get? key).map fun value => (key, value)).toList := by
  change (map.filter fun k _ => k = key).entries = _
  cases found : map.get? key with
  | none =>
    refine List.isEmpty_iff.mp (isEmpty_iff.mpr fun k => ?_)
    rw [get?_filter]
    by_cases same : k = key
    · simp [same, found]
    · simp [same]
  | some value =>
    refine entries_eq_singleton_iff.mpr fun k v => ?_
    rw [get?_filter, Option.filter_eq_some_iff, decide_eq_true_eq]
    constructor
    · rintro ⟨found', rfl⟩
      exact ⟨rfl, Option.some.inj (found'.symm.trans found)⟩
    · rintro ⟨rfl, rfl⟩
      exact ⟨found, rfl⟩

def mapKeyed (f : String → α → β) (map : Keyed α) : Keyed β :=
  ⟨map.entries.map fun entry => (entry.1, f entry.1 entry.2), by
    rw [List.map_map]
    exact map.ascending⟩

theorem mem_mapKeyed {f : String → α → β} {map : Keyed α} {key : String} {value : β} :
    (key, value) ∈ (map.mapKeyed f).entries ↔ ∃ old, (key, old) ∈ map.entries ∧ f key old = value := by
  constructor
  · intro member
    obtain ⟨⟨k, old⟩, inside, same⟩ := List.mem_map.mp member
    cases same
    exact ⟨old, inside, rfl⟩
  · intro found
    obtain ⟨old, inside, rfl⟩ := found
    exact List.mem_map.mpr ⟨(key, old), inside, rfl⟩

theorem get?_mapKeyed (f : String → α → β) (map : Keyed α) (key : String) :
    (map.mapKeyed f).get? key = (map.get? key).map (f key) := by
  apply Option.ext
  intro value
  rw [← mem_entries_iff, mem_mapKeyed, Option.map_eq_some_iff]
  simp only [mem_entries_iff]

theorem mapKeyed_insert (f : String → α → β) (map : Keyed α) (key : String) (value : α) :
    (map.insert key value).mapKeyed f = (map.mapKeyed f).insert key (f key value) := by
  refine ext_get? fun k => ?_
  rw [get?_mapKeyed, get?_insert, get?_insert, get?_mapKeyed]
  by_cases same : key = k
  · subst same
    simp
  · simp [same]

theorem mapKeyed_erase (f : String → α → β) (map : Keyed α) (key : String) :
    (map.erase key).mapKeyed f = (map.mapKeyed f).erase key := by
  refine ext_get? fun k => ?_
  rw [get?_mapKeyed, get?_erase, get?_erase, get?_mapKeyed]
  by_cases same : key = k <;> simp [same]

theorem mem_insert {map : Keyed α} {key k : String} {value v : α} :
    (k, v) ∈ (map.insert key value).entries ↔
      (k = key ∧ v = value) ∨ (k ≠ key ∧ (k, v) ∈ map.entries) := by
  rw [mem_entries_iff, get?_insert, mem_entries_iff]
  by_cases same : key = k
  · subst same
    simp [eq_comm]
  · simp [same, Ne.symm same]

private theorem mem_inserted {entries : List (String × α)} {start : Keyed α} {entry : String × α}
    (member : entry ∈ (entries.foldl (fun map entry => map.insert entry.1 entry.2) start).entries) :
    entry ∈ entries ∨ entry ∈ start.entries := by
  induction entries generalizing start with
  | nil => exact .inr member
  | cons first rest ih =>
    rcases ih member with inside | inside
    · exact .inl (List.mem_cons_of_mem _ inside)
    · rcases mem_insert.mp inside with ⟨key, value⟩ | ⟨_, inside⟩
      · exact .inl (List.mem_cons.mpr (.inl (Prod.ext key value)))
      · exact .inr inside

theorem mem_of_mem_ofList {entries : List (String × α)} {entry : String × α}
    (member : entry ∈ (ofList entries).entries) : entry ∈ entries := by
  rcases mem_inserted member with inside | inside
  · exact inside
  · exact absurd inside (List.not_mem_nil)

private theorem get?_inserted_of_not_mem {entries : List (String × α)} {key : String}
    (absent : key ∉ entries.map Prod.fst) (start : Keyed α) :
    (entries.foldl (fun map entry => map.insert entry.1 entry.2) start).get? key =
      start.get? key := by
  induction entries generalizing start with
  | nil => rfl
  | cons first rest ih =>
    simp only [List.map_cons, List.mem_cons, not_or] at absent
    rw [List.foldl_cons, ih absent.2, get?_insert, if_neg (Ne.symm absent.1)]

private theorem get?_inserted_of_mem {entries : List (String × α)} {key : String} {value : α}
    (distinct : (entries.map Prod.fst).Nodup) (member : (key, value) ∈ entries)
    (start : Keyed α) :
    (entries.foldl (fun map entry => map.insert entry.1 entry.2) start).get? key =
      some value := by
  induction entries generalizing start with
  | nil => exact absurd member (List.not_mem_nil)
  | cons first rest ih =>
    simp only [List.map_cons, List.nodup_cons] at distinct
    rcases List.mem_cons.mp member with same | inside
    · subst same
      rw [List.foldl_cons, get?_inserted_of_not_mem distinct.1, get?_insert, if_pos rfl]
    · exact ih distinct.2 inside _

/-- Where no key comes twice, nothing is lost. -/
theorem mem_ofList {entries : List (String × α)} (distinct : (entries.map Prod.fst).Nodup)
    {entry : String × α} : entry ∈ (ofList entries).entries ↔ entry ∈ entries :=
  ⟨mem_of_mem_ofList, fun member => mem_entries_iff.mpr (get?_inserted_of_mem distinct member _)⟩

theorem get?_ofList_eq_some_iff {entries : List (String × α)} {key : String} {value : α} :
    (ofList entries).get? key = some value ↔
      ∃ earlier later, entries = earlier ++ (key, value) :: later ∧ key ∉ later.map Prod.fst := by
  constructor
  · intro found
    induction entries using List.reverseRecOn with
    | nil => cases found
    | append_singleton entries last ih =>
      obtain ⟨k, v⟩ := last
      rw [ofList, List.foldl_concat, get?_insert] at found
      split at found
      · rename_i same
        cases Option.some.inj found
        exact ⟨entries, [], by rw [← same], List.not_mem_nil⟩
      · rename_i other
        obtain ⟨earlier, later, rfl, absent⟩ := ih found
        refine ⟨earlier, later ++ [(k, v)], by simp, ?_⟩
        simp [absent, Ne.symm other]
  · rintro ⟨earlier, later, rfl, absent⟩
    rw [ofList, List.foldl_append, List.foldl_cons, get?_inserted_of_not_mem absent, get?_insert,
      if_pos rfl]

theorem ofList_entries (map : Keyed α) : ofList map.entries = map := by
  refine ext_get? fun key => Option.ext fun value => ?_
  rw [← mem_entries_iff, mem_ofList map.nodup_keys, mem_entries_iff]

private theorem get?_foldl_entries {step : Keyed β → String × α → Keyed β}
    {change : String → α → Option β → Option β}
    (here : ∀ map key value, (step map (key, value)).get? key = change key value (map.get? key))
    (elsewhere : ∀ map entry key, entry.1 ≠ key → (step map entry).get? key = map.get? key)
    {entries : List (String × α)} (distinct : (entries.map Prod.fst).Nodup) (start : Keyed β)
    (key : String) :
    (entries.foldl step start).get? key =
      match find key entries with
      | some value => change key value (start.get? key)
      | none => start.get? key := by
  induction entries generalizing start with
  | nil => rfl
  | cons entry rest ih =>
    obtain ⟨first, value⟩ := entry
    simp only [List.map_cons, List.nodup_cons] at distinct
    rw [List.foldl_cons, ih distinct.2]
    by_cases same : first = key
    · subst same
      have absent : find first rest = none := by
        cases found : find first rest with
        | none => rfl
        | some old => exact absurd (mem_map_fst_of_find found) distinct.1
      simp [find, absent, here]
    · simp [find, same, elsewhere]

/-- A fold over the entries of a map that changes what is under the key of each. -/
theorem get?_foldl {step : Keyed β → String × α → Keyed β}
    (change : String → α → Option β → Option β)
    (here : ∀ map key value, (step map (key, value)).get? key = change key value (map.get? key))
    (elsewhere : ∀ map entry key, entry.1 ≠ key → (step map entry).get? key = map.get? key)
    (map : Keyed α) (start : Keyed β) (key : String) :
    (map.entries.foldl step start).get? key =
      match map.get? key with
      | some value => change key value (start.get? key)
      | none => start.get? key :=
  get?_foldl_entries here elsewhere map.nodup_keys start key

end TabletDrain.Keyed
