import TabletDrain.Position.Text
import TabletDrain.Proofs.Stepwise
import TabletDrain.Proofs.Keyed
import TabletDrain.Proofs.Position.Ranges
import TabletDrain.Proofs.Text.Numeral
import TabletDrain.Proofs.Text.Split

/-! What a written set of transactions says, and what is read from it. Reading neither loses nor adds a
transaction, whatever the order in which servers and ranges come, and brings the ranges of each server
into normal form. -/
namespace TabletDrain

/-- A range that may be read: it begins at one or later, does not end before it begins, and its numbers
fit into 64 bits. -/
structure Interval.InBounds (range : Interval) : Prop where
  positive : 1 ≤ range.first
  proper : range.first ≤ range.last
  fits : range.last < Position.numberBound

/-- What is kept for a server: at least one range, in normal form. -/
structure Interval.IsKept (ranges : List Interval) : Prop where
  ne_nil : ranges ≠ []
  normal : Interval.IsNormal ranges
  inBounds : ∀ range ∈ ranges, range.InBounds

theorem Interval.isKept_normalize {ranges : List Interval} (some : ranges ≠ [])
    (inBounds : ∀ range ∈ ranges, range.InBounds) : IsKept (normalize ranges) := by
  have normal : IsNormal (normalize ranges) :=
    isNormal_normalize fun range member => (inBounds range member).proper
  refine ⟨fun none => ?_, normal, fun range member => ?_⟩
  · obtain ⟨range, member⟩ := List.exists_mem_of_ne_nil ranges some
    have held := hold_normalize.mpr (hold_first (inBounds range member).proper member)
    rw [none] at held
    exact not_hold_nil held
  · have proper := normal.proper range member
    obtain ⟨old, member', starts, _⟩ := hold_normalize.mp (hold_first proper member)
    obtain ⟨old', member'', _, ends⟩ := hold_normalize.mp (hold_last proper member)
    exact ⟨Nat.le_trans (inBounds old member').positive starts, proper,
      Nat.lt_of_le_of_lt ends (inBounds old' member'').fits⟩

namespace Position

/-- A range is written as two numbers around a dash, or as one number for both ends. -/
inductive Spells : List Char → Interval → Prop
  | ends {a b : List Char} {first last : Nat} : Text.IsNumeral a first → Text.IsNumeral b last →
      Spells (a ++ '-' :: b) ⟨first, last⟩
  | single {a : List Char} {n : Nat} : Text.IsNumeral a n → Spells a ⟨n, n⟩

/-- Between two commas of the text stands an entry that names the server, in letters of either case,
and lists a range with the number. -/
def Tells (value : List Char) (server : String) (n : Nat) : Prop :=
  ∃ piece ∈ value.splitOn ',', ∃ entry, Text.Trims piece entry ∧
    ∃ name parts, entry.splitOn ':' = name :: parts ∧ String.ofList (name.map Char.toLower) = server ∧
      ∃ part ∈ parts, ∃ range, Spells part range ∧ range.covers n

/-- The position includes the transaction of a number on a server. -/
def Holds : Position → String → Nat → Prop
  | transactions set, server, n => ∃ ranges, set.get? server = some ranges ∧ Interval.Hold ranges n
  | _, _, _ => False

def Kept (set : Keyed (List Interval)) : Prop :=
  ∀ server ranges, set.get? server = some ranges → Interval.IsKept ranges

section Parts

variable {part text : List Char} {range other : Interval} {n first last : Nat}

theorem dash_not_mem (numeral : Text.IsNumeral text n) : '-' ∉ text :=
  numeral.not_mem (by decide) (by decide)

/-- The first dash is the one between the numbers. -/
theorem Spells.unique (spells : Spells part range) (spells' : Spells part other) : range = other := by
  generalize same : part = text at spells'
  cases spells with
  | @ends a b _ _ numeral numeral' =>
    cases spells' with
    | ends other other' =>
      have cut : Text.splitFirst '-' (a ++ '-' :: b) = some (a, b) :=
        Text.splitFirst_append (dash_not_mem numeral)
      rw [same, Text.splitFirst_append (dash_not_mem other), Option.some.injEq, Prod.mk.injEq] at cut
      obtain ⟨rfl, rfl⟩ := cut
      rw [numeral.unique other, numeral'.unique other']
    | single other => exact absurd (same ▸ by simp) (dash_not_mem other)
  | single numeral =>
    cases spells' with
    | ends other other' => exact absurd (same ▸ by simp) (dash_not_mem numeral)
    | single other =>
      subst same
      rw [numeral.unique other]

theorem readSequence_eq_ok_iff :
    readSequence text = .ok n ↔ Text.IsNumeral text n ∧ n < numberBound := by
  rw [← Text.readNumeral_eq_ok_iff (by decide), readSequence]
  cases Text.readNumeral numberBound text <;> simp

theorem readEnds_eq_ok_iff : readEnds part = .ok (first, last) ↔
    Spells part ⟨first, last⟩ ∧ first < numberBound ∧ last < numberBound := by
  unfold readEnds
  constructor
  · intro read
    split at read
    · rename_i a b split
      obtain ⟨rfl, _⟩ := Text.of_splitFirst split
      obtain ⟨x, first, read⟩ := exists_of_bind_eq_ok read
      obtain ⟨y, second, read⟩ := exists_of_bind_eq_ok read
      cases read
      rw [readSequence_eq_ok_iff] at first second
      exact ⟨.ends first.1 second.1, first.2, second.2⟩
    · obtain ⟨x, single, read⟩ := exists_of_bind_eq_ok read
      cases read
      rw [readSequence_eq_ok_iff] at single
      exact ⟨.single single.1, single.2, single.2⟩
  · rintro ⟨spells, small, small'⟩
    cases spells with
    | ends numeral numeral' =>
      rw [Text.splitFirst_append (dash_not_mem numeral)]
      dsimp only
      rw [readSequence_eq_ok_iff.mpr ⟨numeral, small⟩, readSequence_eq_ok_iff.mpr ⟨numeral', small'⟩]
      rfl
    | single numeral =>
      rw [Text.splitFirst_eq_none_iff.mpr (dash_not_mem numeral)]
      dsimp only
      rw [readSequence_eq_ok_iff.mpr ⟨numeral, small⟩]
      rfl

theorem readInterval_eq_ok_iff : readInterval part = .ok range ↔ Spells part range ∧ range.InBounds := by
  unfold readInterval
  constructor
  · intro read
    obtain ⟨⟨first, last⟩, ends, read⟩ := exists_of_bind_eq_ok read
    obtain ⟨spells, _, small⟩ := readEnds_eq_ok_iff.mp ends
    dsimp only at read
    split at read
    · cases read
    · rename_i valid
      cases read
      simp only [Bool.or_eq_true, decide_eq_true_eq, not_or, Nat.not_lt] at valid
      exact ⟨spells, Nat.one_le_iff_ne_zero.mpr valid.1, valid.2, small⟩
  · rintro ⟨spells, positive, proper, fits⟩
    obtain ⟨first, last⟩ := range
    have valid : ¬(decide (first = 0) || decide (last < first)) = true := by
      simp only [Bool.or_eq_true, decide_eq_true_eq]
      dsimp only at positive proper
      omega
    rw [readEnds_eq_ok_iff.mpr ⟨spells, Nat.lt_of_le_of_lt proper fits, fits⟩]
    change (if _ then _ else _) = _
    rw [if_neg valid]
    rfl

end Parts

section Entries

variable {entry server value : List Char} {ranges : List Interval} {entries : List (List Char × List Interval)}
  {name : String} {n : Nat}

theorem readEntry_eq_ok_iff : readEntry entry = .ok (server, ranges) ↔
    ∃ name parts, entry.splitOn ':' = name :: parts ∧ name.map Char.toLower = server ∧ server ≠ [] ∧
      List.Forall₂ (fun part range => Spells part range ∧ range.InBounds) parts ranges ∧ ranges ≠ [] := by
  unfold readEntry
  rw [Text.splitAll_eq_splitOn]
  obtain ⟨name, parts, split⟩ := List.exists_cons_of_ne_nil (List.splitOn_ne_nil ':' entry)
  rw [split]
  constructor
  · intro read
    dsimp only at read
    split at read
    · cases read
    · rename_i named
      obtain ⟨found, readAll, read⟩ := exists_of_bind_eq_ok read
      split at read
      · cases read
      · rename_i some
        cases read
        exact ⟨name, parts, rfl, rfl, by simpa using named,
          (mapM_eq_ok_iff.mp readAll).imp fun _ _ => readInterval_eq_ok_iff.mp, by simpa using some⟩
  · rintro ⟨_, _, same, rfl, named, spelt, some⟩
    cases same
    have named' : (lowered name).isEmpty = false := by simpa [lowered] using named
    have some' : ranges.isEmpty = false := by simpa using some
    have readAll : parts.mapM readInterval = .ok ranges :=
      mapM_eq_ok_iff.mpr (spelt.imp fun _ _ => readInterval_eq_ok_iff.mpr)
    simp only [named', readAll, bind, Except.bind, pure, Except.pure, some', Bool.false_eq_true, if_false]
    rfl

theorem get?_addRanges (set : Keyed (List Interval)) (server other : String) (ranges : List Interval) :
    (addRanges set server ranges).get? other =
      if server = other then some ((set.get? other).getD [] ++ ranges) else set.get? other := by
  rw [addRanges, Keyed.get?_insert]
  by_cases same : server = other <;> simp [same]

/-- What is gathered for a server is all that its entries list. -/
theorem get?_gather (entries : List (List Char × List Interval)) (name : String) :
    (gather entries).get? name =
      let found := entries.filter fun entry => String.ofList entry.1 = name
      if found = [] then none else some (found.flatMap Prod.snd) := by
  induction entries using List.reverseRecOn with
  | nil => rfl
  | append_singleton entries entry ih =>
    have grown : gather (entries ++ [entry]) =
        addRanges (gather entries) (String.ofList entry.1) entry.2 := List.foldl_concat _ _ _ _
    rw [grown, get?_addRanges, ih]
    by_cases same : String.ofList entry.1 = name
    · by_cases new : (entries.filter fun entry => String.ofList entry.1 = name) = []
      · simp [List.filter_append, same, new]
      · simp [List.filter_append, same, new]
    · have stays : ((entries ++ [entry]).filter fun entry => String.ofList entry.1 = name) =
          entries.filter fun entry => String.ofList entry.1 = name := by
        simp [List.filter_append, same]
      rw [stays, if_neg same]

theorem mem_entriesOf : entry ∈ entriesOf value ↔
    entry ≠ [] ∧ ∃ piece ∈ value.splitOn ',', Text.Trims piece entry := by
  simp only [entriesOf, Text.splitAll_eq_splitOn, List.mem_filter, List.mem_map, Text.trims_iff,
    Bool.not_eq_true', List.isEmpty_eq_false_iff, and_comm]

theorem of_readTransactions {position : Position} (read : readTransactions value = .ok position) :
    ∃ entries, List.Forall₂ (fun entry read => readEntry entry = .ok read) (entriesOf value) entries ∧
      position = transactions ((gather entries).map Interval.normalize) := by
  obtain ⟨entries, readAll, done⟩ := exists_of_bind_eq_ok read
  cases done
  exact ⟨entries, mapM_eq_ok_iff.mp readAll, rfl⟩

theorem holds_gathered_iff :
    (transactions ((gather entries).map Interval.normalize)).Holds name n ↔
      ∃ entry ∈ entries, String.ofList entry.1 = name ∧ Interval.Hold entry.2 n := by
  simp only [Holds, Keyed.get?_map, get?_gather, Option.map_eq_some_iff]
  constructor
  · rintro ⟨_, ⟨ranges, found, rfl⟩, holds⟩
    split at found
    · cases found
    · cases found
      obtain ⟨range, member, covers⟩ := Interval.hold_normalize.mp holds
      obtain ⟨entry, inside, member⟩ := List.mem_flatMap.mp member
      rw [List.mem_filter, decide_eq_true_eq] at inside
      exact ⟨entry, inside.1, inside.2, range, member, covers⟩
  · rintro ⟨entry, member, named, range, inside, covers⟩
    have found : entry ∈ entries.filter fun entry => String.ofList entry.1 = name := by
      rw [List.mem_filter, decide_eq_true_eq]
      exact ⟨member, named⟩
    refine ⟨_, ⟨_, if_neg (List.ne_nil_of_mem found), rfl⟩, Interval.hold_normalize.mpr ?_⟩
    exact ⟨range, List.mem_flatMap.mpr ⟨entry, found, inside⟩, covers⟩

theorem kept_gathered
    (valid : ∀ entry ∈ entries, entry.2 ≠ [] ∧ ∀ range ∈ entry.2, range.InBounds) :
    Kept ((gather entries).map Interval.normalize) := by
  intro name ranges found
  rw [Keyed.get?_map, get?_gather, Option.map_eq_some_iff] at found
  obtain ⟨ranges, found, rfl⟩ := found
  dsimp only at found
  split at found
  · cases found
  · rename_i some
    cases found
    obtain ⟨entry, member⟩ := List.exists_mem_of_ne_nil _ some
    have inside := (List.mem_filter.mp member).1
    refine Interval.isKept_normalize ?_ fun range member' => ?_
    · obtain ⟨range, listed⟩ := List.exists_mem_of_ne_nil _ (valid entry inside).1
      exact List.ne_nil_of_mem (List.mem_flatMap.mpr ⟨entry, member, listed⟩)
    · obtain ⟨other, member', listed⟩ := List.mem_flatMap.mp member'
      exact (valid other (List.mem_filter.mp member').1).2 range listed

/-- What the entries read list is what the text tells. -/
theorem tells_iff (read : List.Forall₂ (fun entry read => readEntry entry = .ok read) (entriesOf value)
    entries) : Tells value name n ↔
      ∃ entry ∈ entries, String.ofList entry.1 = name ∧ Interval.Hold entry.2 n := by
  constructor
  · rintro ⟨piece, between, entry, trims, server, parts, split, named, part, listed, range, spells, covers⟩
    have some : entry ≠ [] := by
      rintro rfl
      cases split
      cases listed
    obtain ⟨⟨_, ranges⟩, member, reads⟩ :=
      exists_of_mem_left read (mem_entriesOf.mpr ⟨some, piece, between, trims⟩)
    obtain ⟨_, _, split', rfl, _, spelt, _⟩ := readEntry_eq_ok_iff.mp reads
    cases split.symm.trans split'
    obtain ⟨range', inside, spells', _⟩ := exists_of_mem_left spelt listed
    exact ⟨_, member, named, range', inside, spells.unique spells' ▸ covers⟩
  · rintro ⟨⟨_, ranges⟩, member, named, range, inside, covers⟩
    obtain ⟨entry, among, reads⟩ := exists_of_mem_right read member
    obtain ⟨_, piece, between, trims⟩ := mem_entriesOf.mp among
    obtain ⟨server, parts, split, rfl, _, spelt, _⟩ := readEntry_eq_ok_iff.mp reads
    obtain ⟨part, listed, spells, _⟩ := exists_of_mem_right spelt inside
    exact ⟨piece, between, entry, trims, server, parts, split, named, part, listed, range, spells, covers⟩

end Entries

section Decoding

variable {flavor value text : List Char} {position : Position} {set : Keyed (List Interval)}

theorem read_of_flavor (noSlash : '/' ∉ flavor) (value : List Char) :
    read (flavor ++ '/' :: value) =
      if flavor = transactionsFlavor.toList then readTransactions value
      else if flavor = logFileFlavor.toList then readLogFile value
      else .error (.unknownFlavor flavor) := by
  rw [read, Text.splitFirst_append noSlash]
  simp

theorem read_of_transactionsFlavor (value : List Char) :
    read (transactionsFlavor.toList ++ '/' :: value) = readTransactions value := by
  rw [read_of_flavor (by decide), if_pos rfl]

theorem read_of_logFileFlavor (value : List Char) :
    read (logFileFlavor.toList ++ '/' :: value) = readLogFile value := by
  rw [read_of_flavor (by decide), if_neg (by decide), if_pos rfl]

theorem read_eq_ok_iff : read text = .ok position ↔
    text = [] ∧ position = zero ∨
      (∃ value, text = transactionsFlavor.toList ++ '/' :: value ∧ readTransactions value = .ok position) ∨
      ∃ value, text = logFileFlavor.toList ++ '/' :: value ∧ readLogFile value = .ok position := by
  constructor
  · intro reads
    unfold read at reads
    split at reads
    · rename_i nothing
      cases reads
      exact .inl ⟨List.isEmpty_iff.mp nothing, rfl⟩
    · split at reads
      · cases reads
      · rename_i flavor value split
        obtain ⟨rfl, _⟩ := Text.of_splitFirst split
        split at reads
        · rename_i same
          exact .inr (.inl ⟨value, by rw [same], reads⟩)
        · split at reads
          · rename_i same
            exact .inr (.inr ⟨value, by rw [same], reads⟩)
          · cases reads
  · rintro (⟨rfl, rfl⟩ | ⟨value, rfl, reads⟩ | ⟨value, rfl, reads⟩)
    · rfl
    · rw [read_of_transactionsFlavor, reads]
    · rw [read_of_logFileFlavor, reads]

theorem decode_eq_ok_iff {text : String} : decode text = .ok position ↔ read text.toList = .ok position := by
  unfold decode
  cases read text.toList <;> simp

theorem not_readLogFile : readLogFile value ≠ .ok (transactions set) := by
  intro reads
  unfold readLogFile at reads
  split at reads
  · cases reads
  · cases reads
  · split at reads <;> cases reads

theorem kept_of_readTransactions (reads : readTransactions value = .ok (transactions set)) : Kept set := by
  obtain ⟨entries, readAll, same⟩ := of_readTransactions reads
  cases same
  refine kept_gathered fun entry member => ?_
  obtain ⟨_, _, reads⟩ := exists_of_mem_right readAll member
  obtain ⟨_, parts, _, _, _, spelt, some⟩ := readEntry_eq_ok_iff.mp reads
  refine ⟨some, fun range listed => ?_⟩
  obtain ⟨part, _, _, inBounds⟩ := exists_of_mem_right spelt listed
  exact inBounds

theorem kept_of_decode {text : String} (decodes : decode text = .ok (transactions set)) : Kept set := by
  rcases read_eq_ok_iff.mp (decode_eq_ok_iff.mp decodes) with
    ⟨_, same⟩ | ⟨value, _, reads⟩ | ⟨value, _, reads⟩
  · cases same
  · exact kept_of_readTransactions reads
  · exact absurd reads not_readLogFile

theorem decode_of_entries {value : String} {entries : List (List Char × List Interval)}
    (reads : (entriesOf value.toList).mapM readEntry = .ok entries) :
    decode ("MySQL56/" ++ value) = .ok (transactions ((gather entries).map Interval.normalize)) := by
  rw [decode_eq_ok_iff, String.toList_append]
  refine (read_of_transactionsFlavor value.toList).trans ?_
  rw [readTransactions, reads]
  rfl

end Decoding

/-- A set of transactions is read as it is written, and kept in normal form. -/
theorem transactions_as_written {value : String} {position : Position}
    (decodes : decode ("MySQL56/" ++ value) = .ok position) :
    ∃ set, position = transactions set ∧
      (∀ server n, position.Holds server n ↔ Tells value.toList server n) ∧ Kept set := by
  rw [decode_eq_ok_iff, String.toList_append] at decodes
  have reads : readTransactions value.toList = .ok position :=
    (read_of_transactionsFlavor value.toList).symm.trans decodes
  obtain ⟨entries, readAll, rfl⟩ := of_readTransactions reads
  refine ⟨_, rfl, fun server n => ?_, kept_of_readTransactions reads⟩
  rw [holds_gathered_iff, tells_iff readAll]

/-- One server under two spellings, with ranges that touch, nest and reach the largest number. -/
theorem transactions_as_written_sample :
    let value := "3E11:9-18446744073709551615:1-5, 3e11:8:3:+6 ,,3e12:4:1-2"
    ∃ set, decode ("MySQL56/" ++ value) = .ok (transactions set) ∧
      set.get? "3e11" = some [⟨1, 6⟩, ⟨8, 18446744073709551615⟩] ∧
      Tells value.toList "3e11" 18446744073709551615 ∧ ¬Tells value.toList "3e11" 7 ∧ Kept set := by
  intro value
  obtain ⟨entries, reads, gathered⟩ : ∃ entries, (entriesOf value.toList).mapM readEntry = .ok entries ∧
      (gather entries).get? "3e11" =
        some [⟨9, 18446744073709551615⟩, ⟨1, 5⟩, ⟨8, 8⟩, ⟨3, 3⟩, ⟨6, 6⟩] :=
    ⟨[("3e11".toList, [⟨9, 18446744073709551615⟩, ⟨1, 5⟩]),
      ("3e11".toList, [⟨8, 8⟩, ⟨3, 3⟩, ⟨6, 6⟩]), ("3e12".toList, [⟨4, 4⟩, ⟨1, 2⟩])],
      by decide +kernel, by decide +kernel⟩
  have joined : Interval.normalize [⟨9, 18446744073709551615⟩, ⟨1, 5⟩, ⟨8, 8⟩, ⟨3, 3⟩, ⟨6, 6⟩] =
      [⟨1, 6⟩, ⟨8, 18446744073709551615⟩] := by
    refine Interval.normalize_eq_of_hold (by decide) ⟨by decide, by decide⟩ fun n => ?_
    simp [Interval.covers]
    omega
  have decodes := decode_of_entries reads
  obtain ⟨set, same, tells, kept⟩ := transactions_as_written decodes
  have found : set.get? "3e11" = some [⟨1, 6⟩, ⟨8, 18446744073709551615⟩] := by
    cases same
    rw [Keyed.get?_map, gathered, Option.map_some, joined]
  rw [same] at decodes tells
  refine ⟨set, decodes, found, (tells _ _).mp ⟨_, found, by simp [Interval.covers]⟩, fun told => ?_, kept⟩
  obtain ⟨ranges, found', holds⟩ := (tells _ _).mpr told
  cases found.symm.trans found'
  simp [Interval.covers] at holds

end Position

end TabletDrain
