import TabletDrain.Proofs.Position.Written

/-! Which texts are positions. A grammar says it without reading anything, and what is read is just what
the grammar allows; every other text is refused with a fault that holds it unchanged. -/
namespace TabletDrain.Position

/-- A server without a colon in its name, and then each range behind a colon of its own. -/
inductive IsEntry : List Char → Prop
  | lists {server : List Char} {parts : List (List Char)} : server ≠ [] → ':' ∉ server → parts ≠ [] →
      (∀ part ∈ parts, ∃ range, Spells part range ∧ range.InBounds) →
        IsEntry (server ++ parts.flatMap (':' :: ·))

/-- The empty text; entries between commas, of which those that are blank do not count; or a log file
and an offset behind the last colon, which an offset cannot hold. -/
inductive IsPosition : List Char → Prop
  | zero : IsPosition []
  | transactions {value : List Char} :
      (∀ piece ∈ value.splitOn ',', ∀ entry, Text.Trims piece entry → entry = [] ∨ IsEntry entry) →
        IsPosition ("MySQL56/".toList ++ value)
  | logFile {file offset : List Char} {n : Nat} : file ≠ [] → Text.IsNumeral offset n →
      n < numberBound → IsPosition ("FilePos/".toList ++ (file ++ ':' :: offset))

section Reading

variable {entry value text : List Char} {position : Position}

theorem Spells.colon_not_mem {part : List Char} {range : Interval} (spells : Spells part range) :
    ':' ∉ part := by
  have absent {text : List Char} {n : Nat} (numeral : Text.IsNumeral text n) : ':' ∉ text :=
    numeral.not_mem (by decide) (by decide)
  cases spells with
  | ends numeral numeral' => simp [absent numeral, absent numeral']
  | single numeral => exact absent numeral

theorem exists_readEntry_iff : (∃ read, readEntry entry = .ok read) ↔ IsEntry entry := by
  constructor
  · rintro ⟨⟨server, ranges⟩, reads⟩
    obtain ⟨name, parts, split, rfl, named, spelt, some⟩ := readEntry_eq_ok_iff.mp reads
    obtain ⟨rfl, absent⟩ := Text.splitOn_eq_cons_iff.mp split
    refine .lists (by simpa using named) (absent _ List.mem_cons_self) ?_
      (exists_forall₂_iff.mp ⟨ranges, spelt⟩)
    rintro rfl
    exact some (List.forall₂_nil_left_iff.mp spelt)
  · rintro ⟨named, noColon, some, spelt⟩
    obtain ⟨ranges, spelt'⟩ := exists_forall₂_iff.mpr spelt
    refine ⟨(_, ranges), readEntry_eq_ok_iff.mpr
      ⟨_, _, Text.splitOn_eq_cons_iff.mpr ⟨rfl, ?_⟩, rfl, by simpa using named, spelt', ?_⟩⟩
    · refine List.forall_mem_cons.mpr ⟨noColon, fun part listed => ?_⟩
      obtain ⟨range, spells, _⟩ := spelt part listed
      exact spells.colon_not_mem
    · rintro rfl
      exact some (List.forall₂_nil_right_iff.mp spelt')

theorem exists_readTransactions_iff : (∃ position, readTransactions value = .ok position) ↔
    ∀ piece ∈ value.splitOn ',', ∀ entry, Text.Trims piece entry → entry = [] ∨ IsEntry entry := by
  have listed : (∃ position, readTransactions value = .ok position) ↔
      ∀ entry ∈ entriesOf value, IsEntry entry := by
    simp only [← exists_readEntry_iff, ← exists_forall₂_iff, ← mapM_eq_ok_iff]
    constructor
    · rintro ⟨position, reads⟩
      obtain ⟨entries, readAll, _⟩ := exists_of_bind_eq_ok reads
      exact ⟨entries, readAll⟩
    · rintro ⟨entries, readAll⟩
      exact ⟨transactions _, by rw [readTransactions, readAll]; rfl⟩
  rw [listed]
  constructor
  · intro valid piece between entry trims
    exact or_iff_not_imp_left.mpr fun some => valid entry (mem_entriesOf.mpr ⟨some, piece, between, trims⟩)
  · intro valid entry member
    obtain ⟨some, piece, between, trims⟩ := mem_entriesOf.mp member
    exact (valid piece between entry trims).resolve_left some

theorem readLogFile_eq_ok_iff : readLogFile value = .ok position ↔
    ∃ file offset n, value = file ++ ':' :: offset ∧ file ≠ [] ∧ Text.IsNumeral offset n ∧
      n < numberBound ∧ position = logFile (String.ofList file) n := by
  unfold readLogFile
  constructor
  · intro reads
    split at reads
    · cases reads
    · cases reads
    · rename_i file offset some split
      split at reads
      · rename_i n number
        obtain ⟨numeral, small⟩ := (Text.readNumeral_eq_ok_iff (by decide)).mp number
        cases reads
        exact ⟨file, offset, n, Text.of_splitLast split, some, numeral, small, rfl⟩
      · cases reads
  · rintro ⟨file, offset, n, rfl, some, numeral, small, rfl⟩
    obtain ⟨c, rest, rfl⟩ := List.exists_cons_of_ne_nil some
    rw [Text.splitLast_append (numeral.not_mem (by decide) (by decide))]
    dsimp only
    rw [(Text.readNumeral_eq_ok_iff (by decide)).mpr ⟨numeral, small⟩]

theorem exists_read_iff : (∃ position, read text = .ok position) ↔ IsPosition text := by
  constructor
  · rintro ⟨position, reads⟩
    rcases read_eq_ok_iff.mp reads with ⟨rfl, _⟩ | ⟨value, rfl, reads⟩ | ⟨value, rfl, reads⟩
    · exact .zero
    · exact .transactions (exists_readTransactions_iff.mp ⟨position, reads⟩)
    · obtain ⟨file, offset, n, rfl, some, numeral, small, _⟩ := readLogFile_eq_ok_iff.mp reads
      exact .logFile some numeral small
  · rintro (_ | valid | ⟨some, numeral, small⟩)
    · exact ⟨zero, rfl⟩
    · obtain ⟨position, reads⟩ := exists_readTransactions_iff.mpr valid
      exact ⟨position, read_eq_ok_iff.mpr (.inr (.inl ⟨_, rfl, reads⟩))⟩
    · exact ⟨_, read_eq_ok_iff.mpr (.inr (.inr
        ⟨_, rfl, readLogFile_eq_ok_iff.mpr ⟨_, _, _, rfl, some, numeral, small, rfl⟩⟩))⟩

end Reading

/-- Just the texts of the grammar are read. Every other one is refused with a fault that holds it
unchanged, beside a reason. -/
theorem grammar_is_exact (text : String) :
    ((∃ position, decode text = .ok position) ↔ IsPosition text.toList) ∧
    ((∃ fault : TextFault, decode text = .error (.position text fault.reason)) ↔
      ¬IsPosition text.toList) := by
  rw [← exists_read_iff, decode]
  cases read text.toList <;> simp

end TabletDrain.Position
