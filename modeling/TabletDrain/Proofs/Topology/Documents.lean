import TabletDrain.Proofs.Json.Fields
import TabletDrain.Topology.Records

/-! Which documents are the name of a tablet, a list of names, or the record of a tablet, and what they
say. -/
namespace TabletDrain.Topology

open Json

variable {document : Json}

/-- A cell, and a number that is zero where it is left out. -/
structure IsAlias (document : Json) (name : Alias) : Prop where
  isRecord : IsRecord ["cell", "uid"] document
  cell : fieldAt? 0 "cell" document = some (.str name.cell)
  uid : (fieldAt? 1 "uid" document).getD (.num 0) = .num name.uid
  small : name.uid < Alias.uidBound

def ListsAliases (document : Json) (names : List Alias) : Prop :=
  ∃ items, document = .arr items ∧ List.Forall₂ IsAlias items names

/-- The record of a tablet. Texts that are left out are empty. -/
structure IsTablet (document : Json) (raw : RawTablet) : Prop where
  isRecord : IsRecord ["alias", "hostname", "keyspace", "shard", "type"] document
  name : ∃ value, fieldAt? 0 "alias" document = some value ∧ IsAlias value raw.name
  hostname : (fieldAt? 1 "hostname" document).getD (.str "") = .str raw.hostname
  keyspace : (fieldAt? 2 "keyspace" document).getD (.str "") = .str raw.keyspace
  shard : (fieldAt? 3 "shard" document).getD (.str "") = .str raw.shard
  role : (fieldAt? 4 "type" document).getD .null = raw.role
  usable : raw.role.isUsable = true

theorem aliasOfJson_eq_some_iff {name : Alias} :
    aliasOfJson document = some name ↔ IsAlias document name := by
  have positive : 0 < Alias.uidBound := by decide
  unfold aliasOfJson
  simp only [Option.bind_eq_bind, Option.bind_eq_some_iff]
  constructor
  · rintro ⟨found, read, rest⟩
    obtain ⟨isRecord, same⟩ := (slots_eq_some_iff ["cell", "uid"]).mp ⟨found, read, rfl⟩
    split at rest
    · simp only [Option.bind_eq_some_iff, Slot.required_eq_some_iff, readText_eq_some_iff,
        Slot.orElse_nat_iff positive] at rest
      obtain ⟨cell, ⟨_, atCell, rfl⟩, uid, ⟨atUid, small⟩, ⟨⟩⟩ := rest
      simp only [List.mapIdx_cons, List.mapIdx_nil, List.map_cons, List.map_nil, List.cons.injEq] at same
      exact ⟨isRecord, same.1.trans atCell, same.2.1 ▸ atUid, small⟩
    · cases rest
  · rintro ⟨isRecord, cell, uid, small⟩
    obtain ⟨found, read, same⟩ := (slots_eq_some_iff ["cell", "uid"]).mpr ⟨isRecord, rfl⟩
    simp only [List.mapIdx_cons, List.mapIdx_nil, List.map_eq_cons_iff, List.map_eq_nil_iff] at same
    obtain ⟨_, _, rfl, atCell, _, _, rfl, atUid, rfl⟩ := same
    refine ⟨_, read, ?_⟩
    simp only [Option.bind_eq_some_iff, Slot.required_eq_some_iff, readText_eq_some_iff,
      Slot.orElse_nat_iff positive]
    exact ⟨_, ⟨_, atCell.trans cell, rfl⟩, _, ⟨atUid ▸ uid, small⟩, rfl⟩

theorem readList_aliasOfJson_iff {names : List Alias} :
    readList aliasOfJson document = some names ↔ ListsAliases document names := by
  cases document with
  | arr items =>
    simp only [readList, mapM_eq_some_iff, ListsAliases, aliasOfJson_eq_some_iff, Json.arr.injEq,
      exists_eq_left']
  | _ => simp [readList, ListsAliases]

theorem tabletOfJson_eq_some_iff {raw : RawTablet} :
    tabletOfJson document = some raw ↔ IsTablet document raw := by
  unfold tabletOfJson
  simp only [Option.bind_eq_bind, Option.bind_eq_some_iff]
  constructor
  · rintro ⟨found, read, rest⟩
    obtain ⟨isRecord, same⟩ :=
      (slots_eq_some_iff ["alias", "hostname", "keyspace", "shard", "type"]).mp ⟨found, read, rfl⟩
    split at rest
    · simp only [Option.bind_eq_some_iff, Slot.required_eq_some_iff, aliasOfJson_eq_some_iff,
        Slot.orElse_text_iff, Slot.orElse_any_iff] at rest
      obtain ⟨_, ⟨_, atName, isAlias⟩, _, atHost, _, atKeyspace, _, atShard, _, ⟨atRole, usable⟩, ⟨⟩⟩ :=
        rest
      simp only [List.mapIdx_cons, List.mapIdx_nil, List.map_cons, List.map_nil, List.cons.injEq] at same
      obtain ⟨name', host', keyspace', shard', role', -⟩ := same
      exact ⟨isRecord, ⟨_, name'.trans atName, isAlias⟩, host' ▸ atHost, keyspace' ▸ atKeyspace,
        shard' ▸ atShard, role' ▸ atRole, usable⟩
    · cases rest
  · rintro ⟨isRecord, ⟨value, name, isAlias⟩, host, keyspace, shard, role, usable⟩
    obtain ⟨found, read, same⟩ :=
      (slots_eq_some_iff ["alias", "hostname", "keyspace", "shard", "type"]).mpr ⟨isRecord, rfl⟩
    simp only [List.mapIdx_cons, List.mapIdx_nil, List.map_eq_cons_iff, List.map_eq_nil_iff] at same
    obtain ⟨_, _, rfl, atName, _, _, rfl, atHost, _, _, rfl, atKeyspace, _, _, rfl, atShard, _, _, rfl,
      atRole, rfl⟩ := same
    refine ⟨_, read, ?_⟩
    simp only [Option.bind_eq_some_iff, Slot.required_eq_some_iff, aliasOfJson_eq_some_iff,
      Slot.orElse_text_iff, Slot.orElse_any_iff]
    exact ⟨_, ⟨_, atName.trans name, isAlias⟩, _, atHost ▸ host, _, atKeyspace ▸ keyspace, _,
      atShard ▸ shard, _, ⟨atRole ▸ role, usable⟩, rfl⟩

end TabletDrain.Topology
