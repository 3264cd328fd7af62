import TabletDrain.Proofs.Position.Grammar

/-! Positions that are read are read again from their own written form. Of a set of transactions that
form names each server once, in small letters, and lists its ranges in normal form; all that reading
changes in a text is changed already. -/
namespace TabletDrain

namespace Text

/-- Lowering a character leaves it as it is, or leaves a small letter. -/
theorem toLower_cases (c : Char) : c.toLower = c ∨ 97 ≤ c.toLower.toNat ∧ c.toLower.toNat ≤ 122 := by
  by_cases capital : c.val ≥ 'A'.val ∧ c.val ≤ 'Z'.val
  · have lowered : c.toLower.toNat = (c.val + ('a'.val - 'A'.val)).toNat :=
      congrArg Char.toNat (dif_pos capital)
    obtain ⟨low, high⟩ := capital
    rw [ge_iff_le, UInt32.le_iff_toNat_le] at low
    rw [UInt32.le_iff_toNat_le] at high
    change 65 ≤ c.val.toNat at low
    change c.val.toNat ≤ 90 at high
    have raised : (c.val + ('a'.val - 'A'.val)).toNat = c.val.toNat + 32 := by
      rw [UInt32.toNat_add]
      change (c.val.toNat + 32) % 4294967296 = _
      omega
    rw [lowered, raised]
    exact .inr ⟨by omega, by omega⟩
  · exact .inl (dif_neg capital)

theorem toLower_toLower (c : Char) : c.toLower.toLower = c.toLower := by
  rcases toLower_cases c with same | ⟨low, _⟩
  · rw [same, same]
  · generalize c.toLower = d at low
    refine dif_neg fun capital => ?_
    have high := capital.2
    rw [UInt32.le_iff_toNat_le] at high
    change d.toNat ≤ 90 at high
    omega

/-- No mark comes of lowering another character. -/
theorem eq_of_toLower_eq {c mark : Char} (lowers : c.toLower = mark) (noLetter : mark.toNat < 97) :
    c = mark := by
  rcases toLower_cases c with same | ⟨low, _⟩
  · exact same.symm.trans lowers
  · rw [lowers] at low
    omega

theorem isBlank_toLower {c : Char} (shown : isBlank c = false) : isBlank c.toLower = false := by
  rcases toLower_cases c with same | ⟨low, high⟩
  · rw [same, shown]
  · generalize c.toLower = d at low high
    simp [isBlank, inRanges, blankRanges]
    omega

end Text

namespace Position

/-- The names that servers are kept under. -/
structure IsServer (name : List Char) : Prop where
  ne_nil : name ≠ []
  small : name.map Char.toLower = name
  noComma : ',' ∉ name
  noColon : ':' ∉ name
  begins : ∀ c ∈ name.head?, Text.isBlank c = false

/-- The positions that a text can be read as. -/
inductive IsCanonical : Position → Prop
  | zero : IsCanonical zero
  | transactions {set : Keyed (List Interval)} :
      (∀ server ranges, set.get? server = some ranges →
        IsServer server.toList ∧ Interval.IsKept ranges) → IsCanonical (transactions set)
  | logFile {file : String} {offset : Nat} : file ≠ "" → offset < numberBound →
      IsCanonical (logFile file offset)

section Names

variable {value entry server : List Char} {ranges : List Interval}

theorem isServer_lowered {name : List Char} (some : name ≠ []) (noComma : ',' ∉ name)
    (noColon : ':' ∉ name) (begins : ∀ c ∈ name.head?, Text.isBlank c = false) :
    IsServer (name.map Char.toLower) where
  ne_nil := by simpa using some
  small := by
    rw [List.map_map]
    exact List.map_congr_left fun c _ => Text.toLower_toLower c
  noComma := fun member => by
    obtain ⟨c, inside, lowers⟩ := List.mem_map.mp member
    exact noComma (Text.eq_of_toLower_eq lowers (by decide) ▸ inside)
  noColon := fun member => by
    obtain ⟨c, inside, lowers⟩ := List.mem_map.mp member
    exact noColon (Text.eq_of_toLower_eq lowers (by decide) ▸ inside)
  begins := by
    intro d first
    rw [List.head?_map, Option.mem_def, Option.map_eq_some_iff] at first
    obtain ⟨c, first, rfl⟩ := first
    exact Text.isBlank_toLower (begins c first)

theorem isServer_of_readEntry (member : entry ∈ entriesOf value)
    (reads : readEntry entry = .ok (server, ranges)) : IsServer server := by
  obtain ⟨_, piece, between, trims⟩ := mem_entriesOf.mp member
  obtain ⟨name, parts, split, rfl, named, _⟩ := readEntry_eq_ok_iff.mp reads
  obtain ⟨rfl, absent⟩ := Text.splitOn_eq_cons_iff.mp split
  have some : name ≠ [] := by simpa using named
  have noComma := Text.not_mem_of_mem_splitOn between
  obtain ⟨before, after, rfl, _⟩ := trims.around
  refine isServer_lowered some (fun comma => noComma ?_) (absent name List.mem_cons_self) ?_
  · simp [comma]
  · have begins := trims.head
    rwa [List.head?_append_of_ne_nil _ some] at begins

end Names

theorem isCanonical_of_decode {text : String} {position : Position}
    (decodes : decode text = .ok position) : position.IsCanonical := by
  rcases read_eq_ok_iff.mp (decode_eq_ok_iff.mp decodes) with
    ⟨_, rfl⟩ | ⟨value, _, reads⟩ | ⟨value, _, reads⟩
  · exact .zero
  · obtain ⟨entries, readAll, rfl⟩ := of_readTransactions reads
    refine .transactions fun server ranges found => ⟨?_, kept_of_readTransactions reads _ _ found⟩
    rw [Keyed.get?_map, get?_gather, Option.map_eq_some_iff] at found
    obtain ⟨_, found, _⟩ := found
    dsimp only at found
    split at found
    · cases found
    · rename_i some
      -- A name that is kept comes of an entry that was read under it.
      obtain ⟨⟨name, listed⟩, member⟩ := List.exists_mem_of_ne_nil _ some
      obtain ⟨inside, named⟩ := List.mem_filter.mp member
      obtain ⟨entry, among, reads⟩ := exists_of_mem_right readAll inside
      rw [← of_decide_eq_true named, String.toList_ofList]
      exact isServer_of_readEntry among reads
  · obtain ⟨file, offset, n, _, some, _, small, rfl⟩ := readLogFile_eq_ok_iff.mp reads
    exact .logFile (by simpa [← String.toList_inj] using some) small

section Writing

variable {range : Interval} {ranges : List Interval} {server : String} {set : Keyed (List Interval)}

def rangeText (range : Interval) : List Char :=
  if range.first = range.last then Text.digits range.first
  else Text.digits range.first ++ '-' :: Text.digits range.last

theorem intervalText_eq (range : Interval) : intervalText range = ':' :: rangeText range := by
  unfold intervalText rangeText
  split <;> rfl

theorem spells_rangeText (range : Interval) : Spells (rangeText range) range := by
  unfold rangeText
  split
  · rename_i same
    obtain ⟨first, last⟩ := range
    cases same
    exact .single (Text.isNumeral_digits first)
  · exact .ends (Text.isNumeral_digits _) (Text.isNumeral_digits _)

theorem of_mem_intervalText {c : Char} (member : c ∈ intervalText range) :
    c = ':' ∨ c = '-' ∨ c.isDigit = true := by
  have digit {n : Nat} (inside : c ∈ Text.digits n) : c.isDigit = true :=
    Nat.isDigit_of_mem_toDigits (by decide) (by decide) inside
  rw [intervalText_eq, rangeText] at member
  rcases List.mem_cons.mp member with colon | inside
  · exact .inl colon
  · split at inside
    · exact .inr (.inr (digit inside))
    · simp only [List.mem_append, List.mem_cons] at inside
      rcases inside with inside | dash | inside
      · exact .inr (.inr (digit inside))
      · exact .inr (.inl dash)
      · exact .inr (.inr (digit inside))

theorem of_mem_intervalsText {c : Char} (member : c ∈ ranges.flatMap intervalText) :
    c ≠ ',' ∧ Text.isBlank c = false := by
  obtain ⟨range, _, inside⟩ := List.mem_flatMap.mp member
  rcases of_mem_intervalText inside with rfl | rfl | digit
  · decide
  · decide
  · refine ⟨fun comma => by simp [comma] at digit, ?_⟩
    rw [Char.isDigit_iff_toNat] at digit
    change 48 ≤ c.toNat ∧ c.toNat ≤ 57 at digit
    simp [Text.isBlank, Text.inRanges, Text.blankRanges]
    omega

theorem readEntry_entryText (named : IsServer server.toList) (kept : Interval.IsKept ranges) :
    readEntry (entryText (server, ranges)) = .ok (server.toList, ranges) := by
  have parts : ranges.flatMap intervalText = (ranges.map rangeText).flatMap (':' :: ·) := by
    rw [List.flatMap_map]
    exact List.flatMap_congr fun range _ => intervalText_eq range
  refine readEntry_eq_ok_iff.mpr ⟨server.toList, ranges.map rangeText,
    Text.splitOn_eq_cons_iff.mpr ⟨congrArg _ parts, ?_⟩, named.small, named.ne_nil, ?_, kept.ne_nil⟩
  · refine List.forall_mem_cons.mpr ⟨named.noColon, List.forall_mem_map.mpr fun range _ => ?_⟩
    exact (spells_rangeText range).colon_not_mem
  · rw [List.forall₂_map_left_iff]
    exact List.forall₂_same.mpr fun range member => ⟨spells_rangeText range, kept.inBounds range member⟩

/-- An entry is left as it is where a text is cut at its commas and trimmed. -/
theorem entryText_stands (named : IsServer server.toList) (some : ranges ≠ []) :
    ',' ∉ entryText (server, ranges) ∧
      Text.Trims (entryText (server, ranges)) (entryText (server, ranges)) := by
  have listed : ranges.flatMap intervalText ≠ [] := by
    obtain ⟨range, rest, rfl⟩ := List.exists_cons_of_ne_nil some
    rw [List.flatMap_cons, intervalText_eq]
    exact List.cons_ne_nil _ _
  refine ⟨fun comma => ?_, ⟨[], [], by simp, by simp⟩, ?_, ?_⟩
  · rcases List.mem_append.mp comma with inside | inside
    · exact named.noComma inside
    · exact (of_mem_intervalsText inside).1 rfl
  · rw [entryText, List.head?_append_of_ne_nil _ named.ne_nil]
    exact named.begins
  · rw [entryText, List.getLast?_append_of_ne_nil _ listed]
    exact fun c last => (of_mem_intervalsText (List.mem_of_getLast? last)).2

theorem commaSeparated_cons (first : List Char) (rest : List (List Char)) :
    commaSeparated (first :: rest) = first ++ rest.flatMap (',' :: ·) := by
  induction rest generalizing first with
  | nil => simp [commaSeparated]
  | cons text rest ih =>
    rw [commaSeparated, ih, List.flatMap_cons, List.cons_append]
    exact List.cons_ne_nil _ _

theorem entriesOf_commaSeparated {texts : List (List Char)}
    (stand : ∀ text ∈ texts, text ≠ [] ∧ ',' ∉ text ∧ Text.Trims text text) :
    entriesOf (commaSeparated texts) = texts := by
  cases texts with
  | nil => rfl
  | cons first rest =>
    have split : (commaSeparated (first :: rest)).splitOn ',' = first :: rest :=
      Text.splitOn_eq_cons_iff.mpr
        ⟨commaSeparated_cons first rest, fun text member => (stand text member).2.1⟩
    have trimmed : (first :: rest).map Text.trim = first :: rest := by
      rw [List.map_congr_left fun text member => Text.trims_iff.mp (stand text member).2.2, List.map_id']
    rw [entriesOf, Text.splitAll_eq_splitOn, split, trimmed, List.filter_eq_self]
    simpa using fun text member => (stand text member).1

theorem gather_entries (set : Keyed (List Interval)) :
    gather (set.entries.map fun entry => (entry.1.toList, entry.2)) = set := by
  refine Keyed.ext_get? fun server => ?_
  have found := set.filter_entries_key server
  rw [get?_gather, List.filter_map]
  simp only [Function.comp_def, String.ofList_toList, found]
  cases set.get? server <;> simp

theorem map_normalize (kept : Kept set) : set.map Interval.normalize = set := by
  refine Keyed.ext_get? fun server => ?_
  rw [Keyed.get?_map]
  cases found : set.get? server with
  | none => rfl
  | some ranges =>
    obtain ⟨_, normal, _⟩ := kept server ranges found
    exact congrArg some (Interval.normalize_eq_of_hold normal.proper normal fun _ => .rfl)

theorem readTransactions_write (valid : ∀ server ranges, set.get? server = some ranges →
    IsServer server.toList ∧ Interval.IsKept ranges) :
    readTransactions (commaSeparated (set.entries.map entryText)) = .ok (transactions set) := by
  have each : ∀ entry ∈ set.entries, IsServer entry.1.toList ∧ Interval.IsKept entry.2 :=
    fun entry member => valid _ _ (Keyed.get?_of_mem member)
  have entries : entriesOf (commaSeparated (set.entries.map entryText)) = set.entries.map entryText := by
    refine entriesOf_commaSeparated (List.forall_mem_map.mpr fun entry member => ?_)
    obtain ⟨named, kept⟩ := each entry member
    exact ⟨List.append_ne_nil_of_left_ne_nil named.ne_nil _, entryText_stands named kept.ne_nil⟩
  have readAll : (set.entries.map entryText).mapM readEntry =
      .ok (set.entries.map fun entry => (entry.1.toList, entry.2)) := by
    refine mapM_eq_ok_iff.mpr ?_
    rw [List.forall₂_map_left_iff, List.forall₂_map_right_iff]
    exact List.forall₂_same.mpr fun entry member =>
      readEntry_entryText (each entry member).1 (each entry member).2
  rw [readTransactions, entries, readAll]
  change Except.ok (transactions ((gather _).map Interval.normalize)) = _
  rw [gather_entries, map_normalize fun server ranges found => (valid server ranges found).2]

end Writing

theorem decode_text {position : Position} (canonical : position.IsCanonical) :
    decode position.text = .ok position := by
  rw [decode_eq_ok_iff, text, String.toList_ofList]
  cases canonical with
  | zero => rfl
  | transactions valid => exact (read_of_transactionsFlavor _).trans (readTransactions_write valid)
  | logFile some small =>
    rename_i file offset
    refine (read_of_logFileFlavor _).trans (readLogFile_eq_ok_iff.mpr
      ⟨file.toList, Text.digits offset, offset, rfl, ?_, Text.isNumeral_digits offset, small, ?_⟩)
    · exact mt String.toList_eq_nil_iff.mp some
    · rw [String.ofList_toList]

/-- The written form of a position that was read is read as the same position, so that writing what
was read changes nothing any more; and positions that were read have the same written form only if
they are the same. -/
theorem written_form_reads_back {text : String} {position : Position}
    (decodes : decode text = .ok position) :
    decode position.text = .ok position ∧
      ∀ other position', decode other = .ok position' →
        (position'.text = position.text ↔ position' = position) := by
  have back := decode_text (isCanonical_of_decode decodes)
  refine ⟨back, fun other position' decodes' => ⟨fun same => ?_, congrArg Position.text⟩⟩
  have back' := decode_text (isCanonical_of_decode decodes')
  rw [same, back] at back'
  exact (Except.ok.inj back').symm

/-- One server twice, with an inner blank, a slash, a dash and capitals in its name. -/
theorem written_form_reads_back_sample :
    let written := "MySQL56/a/b -c :1:4-6:18446744073709551615"
    ∃ set, decode "MySQL56/ ,A/b -C :+4-5:06:1, a/B -c :18446744073709551615" = .ok (transactions set) ∧
      (transactions set).text = written ∧ decode written = .ok (transactions set) ∧
      (zero.text = written ↔ zero = transactions set) := by
  intro written
  let value := " ,A/b -C :+4-5:06:1, a/B -c :18446744073709551615"
  obtain ⟨entries, reads, gathered⟩ : ∃ entries, (entriesOf value.toList).mapM readEntry = .ok entries ∧
      (gather entries).entries =
        [("a/b -c ", [⟨4, 5⟩, ⟨6, 6⟩, ⟨1, 1⟩, ⟨18446744073709551615, 18446744073709551615⟩])] :=
    ⟨[("a/b -c ".toList, [⟨4, 5⟩, ⟨6, 6⟩, ⟨1, 1⟩]),
      ("a/b -c ".toList, [⟨18446744073709551615, 18446744073709551615⟩])],
      by decide +kernel, by decide +kernel⟩
  have joined : Interval.normalize
      [⟨4, 5⟩, ⟨6, 6⟩, ⟨1, 1⟩, ⟨18446744073709551615, 18446744073709551615⟩] =
        [⟨1, 1⟩, ⟨4, 6⟩, ⟨18446744073709551615, 18446744073709551615⟩] := by
    refine Interval.normalize_eq_of_hold (by decide) ⟨by decide, by decide⟩ fun n => ?_
    simp [Interval.covers]
    omega
  have decodes := decode_of_entries reads
  have writes : (transactions ((gather entries).map Interval.normalize)).text = written := by
    have entries : ((gather entries).map Interval.normalize).entries =
        [("a/b -c ", [⟨1, 1⟩, ⟨4, 6⟩, ⟨18446744073709551615, 18446744073709551615⟩])] := by
      simp only [Keyed.map, gathered, List.map_cons, List.map_nil, joined]
    rw [text, write, entries]
    decide +kernel
  obtain ⟨back, same⟩ := written_form_reads_back decodes
  rw [writes] at back same
  exact ⟨_, decodes, writes, back, same "" zero (by decide +kernel)⟩

end Position

end TabletDrain
