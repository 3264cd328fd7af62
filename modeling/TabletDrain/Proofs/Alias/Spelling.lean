import TabletDrain.Pod.Basic
import TabletDrain.Proofs.Alias
import TabletDrain.Proofs.Text.Numeral

/-! The texts of an alias. Many texts are read as one alias, since its number has many spellings; the
one that it is written as has just ten digits. So the keys of pods and tablets, which are written
aliases, agree where the cells and the numbers do, however the label of the pod spells its number. -/
namespace TabletDrain

namespace Text

theorem length_paddedDigits {width n : Nat} (some : 0 < width) (small : n < 10 ^ width) :
    (paddedDigits width n).length = width := by
  have fits : (digits n).length ≤ width := (Nat.length_toDigits_le_iff (by decide) some).mpr small
  rw [paddedDigits, List.length_append, List.length_replicate, Nat.sub_add_cancel fits]

/-- The digits of a number at a width are the only ones of that length that denote it. -/
theorem paddedDigits_eq_iff {width n : Nat} {text : List Char} (some : 0 < width) (small : n < 10 ^ width) :
    paddedDigits width n = text ↔ text.length = width ∧ (∀ c ∈ text, c.isDigit = true) ∧
      Nat.ofDigitChars 10 text 0 = n := by
  have length := length_paddedDigits some small
  constructor
  · rintro rfl
    exact ⟨length, fun _ => isDigit_of_mem_paddedDigits, ofDigitChars_paddedDigits width n⟩
  · rintro ⟨long, all, value⟩
    exact eq_of_ofDigitChars_eq (length.trans long.symm) (fun _ => isDigit_of_mem_paddedDigits) all
      ((ofDigitChars_paddedDigits width n).trans value.symm)

theorem isNumeral_paddedDigits {width n : Nat} (some : 0 < width) (small : n < 10 ^ width) :
    IsNumeral (paddedDigits width n) n := by
  refine .plain ⟨fun none => ?_, fun _ => isDigit_of_mem_paddedDigits, ofDigitChars_paddedDigits width n⟩
  have length := length_paddedDigits some small
  rw [none, List.length_nil] at length
  omega

end Text

namespace Alias

variable {text number : String} {name : Alias}

/-- The text has the cell of the alias before its last dash, and after it a spelling of its number. -/
structure IsSpelling (text number : String) (name : Alias) : Prop where
  eq_append : text = name.cell ++ "-" ++ number
  noDash : '-' ∉ number.toList
  cell_ne : name.cell ≠ ""
  numeral : Text.IsNumeral number.toList name.uid
  small : name.uid < uidBound

theorem IsSpelling.toList_eq (spelling : IsSpelling text number name) :
    text.toList = name.cell.toList ++ '-' :: number.toList := by
  rw [spelling.eq_append, String.toList_append, String.toList_append, List.append_assoc]
  rfl

theorem lt_pow_of_lt_uidBound {uid : Nat} (small : uid < uidBound) : uid < 10 ^ 10 := by
  unfold uidBound at small
  omega

/-- The written form has all ten digits of the number. -/
theorem isSpelling_text (some : name.cell ≠ "") (small : name.uid < uidBound) :
    IsSpelling name.text (Text.padded 10 name.uid) name := by
  have numeral := Text.isNumeral_paddedDigits (by decide) (lt_pow_of_lt_uidBound small)
  refine ⟨rfl, ?_, some, ?_, small⟩
  · rw [Text.padded, String.toList_ofList]
    exact numeral.not_mem (by decide) (by decide)
  · rw [Text.padded, String.toList_ofList]
    exact numeral

theorem parse_eq_ok_iff : parse text = .ok name ↔ ∃ number, IsSpelling text number name := by
  constructor
  · intro read
    unfold parse at read
    split at read
    · cases read
    · cases read
    · rename_i cell uid some split
      cases number : Text.readNumeral uidBound uid with
      | error fault =>
        rw [number] at read
        cases read
      | ok n =>
        rw [number] at read
        cases read
        obtain ⟨numeral, small⟩ := (Text.readNumeral_eq_ok_iff (by decide)).mp number
        refine ⟨String.ofList uid, ?_, ?_, fun none => ?_, ?_, small⟩
        · rw [← String.toList_inj, Text.of_splitLast split]
          simp
        · rw [String.toList_ofList]
          exact numeral.not_mem (by decide) (by decide)
        · exact some (String.ofList_eq_empty_iff.mp none)
        · rw [String.toList_ofList]
          exact numeral
  · rintro ⟨number, spelling⟩
    have split := Text.splitLast_append spelling.noDash name.cell.toList
    rw [← spelling.toList_eq] at split
    have read := (Text.readNumeral_eq_ok_iff (by decide)).mpr ⟨spelling.numeral, spelling.small⟩
    unfold parse
    split
    · rename_i none
      rw [none] at split
      cases split
    · rename_i empty
      rw [empty, Option.some.injEq, Prod.mk.injEq] at split
      have none : name.cell = "" := String.toList_inj.mp split.1.symm
      exact absurd none spelling.cell_ne
    · rename_i found
      rw [found, Option.some.injEq, Prod.mk.injEq] at split
      rw [split.2, read, split.1]
      simp

/-- A text is the written one of its alias when the last part of it is ten digits. -/
theorem IsSpelling.text_eq_iff (spelling : IsSpelling text number name) :
    name.text = text ↔ number.length = 10 ∧ ∀ c ∈ number.toList, c.isDigit = true := by
  rw [← String.toList_inj, toList_text, spelling.toList_eq, List.append_cancel_left_eq,
    List.cons.injEq, eq_self, true_and,
    Text.paddedDigits_eq_iff (by decide) (lt_pow_of_lt_uidBound spelling.small), String.length_toList]
  constructor
  · rintro ⟨length, all, _⟩
    exact ⟨length, all⟩
  · rintro ⟨length, all⟩
    have plain : Text.IsNumeral number.toList (Nat.ofDigitChars 10 number.toList 0) := by
      refine .plain ⟨fun none => ?_, all, rfl⟩
      rw [← String.length_toList, none] at length
      cases length
    exact ⟨length, all, plain.unique spelling.numeral⟩

end Alias

/-- The labels of the pod tell the tablet, its number in any spelling. -/
structure Pod.Tells (pod : Pod) (name : Alias) : Prop where
  cell : pod.label? cellLabel = some name.cell
  number : ∃ label, pod.label? uidLabel = some label ∧ Text.IsNumeral label.toList name.uid

/-- A label denotes one number. -/
theorem Pod.Tells.unique {pod : Pod} {name other : Alias} (tells : pod.Tells name)
    (tells' : pod.Tells other) : name = other := by
  obtain ⟨cell, label, labelled, numeral⟩ := tells
  obtain ⟨cell', label', labelled', numeral'⟩ := tells'
  cases Option.some.inj (labelled.symm.trans labelled')
  exact (Alias.mk.injEq _ _ _ _).mpr
    ⟨Option.some.inj (cell.symm.trans cell'), numeral.unique numeral'⟩

theorem Pod.tablet?_eq_some_iff {pod : Pod} {name : Alias} :
    pod.tablet? = some name ↔ pod.Tells name ∧ name.uid < Alias.uidBound := by
  unfold tablet?
  constructor
  · intro named
    obtain ⟨cell, inCell, named⟩ := Option.bind_eq_some_iff.mp named
    obtain ⟨label, labelled, named⟩ := Option.bind_eq_some_iff.mp named
    split at named
    · rename_i uid read
      cases named
      obtain ⟨numeral, small⟩ := (Text.readNumeral_eq_ok_iff (by decide)).mp read
      exact ⟨⟨inCell, label, labelled, numeral⟩, small⟩
    · cases named
  · rintro ⟨⟨inCell, label, labelled, numeral⟩, small⟩
    have read := (Text.readNumeral_eq_ok_iff (by decide)).mpr ⟨numeral, small⟩
    simp [inCell, labelled, read]

theorem Pod.map_text_tablet?_iff {pod : Pod} {name : Alias} (small : name.uid < Alias.uidBound) :
    pod.tablet?.map Alias.text = some name.text ↔ pod.Tells name := by
  rw [Option.map_eq_some_iff]
  constructor
  · rintro ⟨other, named, same⟩
    exact (tablet?_eq_some_iff.mp (Alias.text_inj.mp same ▸ named)).1
  · intro tells
    exact ⟨name, tablet?_eq_some_iff.mpr ⟨tells, small⟩, rfl⟩

theorem Pod.tablet?_of_get?_index {pods : List Pod} {key : String} {pod : Pod}
    (found : (index pods).get? key = some pod) : ∃ name, pod.tablet? = some name ∧ name.text = key := by
  have member := Keyed.mem_of_mem_ofList (Keyed.mem_entries_iff.mpr found)
  obtain ⟨_, _, entry⟩ := List.mem_filterMap.mp member
  obtain ⟨name, named, same⟩ := Option.map_eq_some_iff.mp entry
  cases same
  exact ⟨name, named, rfl⟩

/-- An alias is read back from its text, no two have one text, and the keys of a pod and of a tablet
agree exactly if the labels tell the tablet. A text is read exactly if it is a spelling of an alias,
and it is the alias's own text exactly if the number in it has ten digits and no sign. -/
theorem Alias.told_by_text :
    (∀ name : Alias, name.cell ≠ "" → name.uid < uidBound → parse name.text = .ok name) ∧
    Function.Injective text ∧
    (∀ (pod : Pod) (tablet : Tablet), tablet.name.uid < uidBound →
      (pod.tablet?.map text = some tablet.name.text ↔ pod.Tells tablet.name)) ∧
    (∀ pods tablets key key' pod tablet, (Pod.index pods).get? key = some pod →
      (Tablet.index tablets).get? key' = some tablet → (key = key' ↔ pod.Tells tablet.name)) ∧
    (∀ text name, parse text = .ok name ↔ ∃ number, IsSpelling text number name) ∧
    ∀ text number name, IsSpelling text number name →
      (name.text = text ↔ number.length = 10 ∧ ∀ c ∈ number.toList, c.isDigit = true) := by
  refine ⟨fun name some small => parse_eq_ok_iff.mpr ⟨_, isSpelling_text some small⟩, text_injective,
    fun pod tablet small => Pod.map_text_tablet?_iff small, ?_, fun text name => parse_eq_ok_iff,
    fun text number name spelling => spelling.text_eq_iff⟩
  intro pods tablets key key' pod tablet held recorded
  obtain ⟨name, named, rfl⟩ := Pod.tablet?_of_get?_index held
  have tells := (Pod.tablet?_eq_some_iff.mp named).1
  rw [← Tablet.text_of_get?_index recorded, text_inj]
  exact ⟨fun same => same ▸ tells, fun tells' => tells.unique tells'⟩

theorem Alias.told_by_text_sample :
    let name : Alias := ⟨"us-east-1a", 4294967295⟩
    let tablet : Tablet := ⟨⟨"us-east-1a", 101⟩, .replica, "main", "0", ""⟩
    let pod : Pod := {
      name := none, generateName := none, namespaceName := none, annotations := none,
      containers := none, conditions := none,
      labels := some (.ofList [(cellLabel, "us-east-1a"), (uidLabel, "+00000000101")]) }
    name.cell ≠ "" ∧ name.uid < uidBound ∧ parse name.text = .ok name ∧
      tablet.name.uid < uidBound ∧ pod.Tells tablet.name ∧
      pod.tablet?.map text = some tablet.name.text ∧
      (Pod.index [pod]).get? "us-east-1a-0000000101" = some pod ∧
      (Tablet.index [tablet]).get? "us-east-1a-0000000101" = some tablet ∧
      IsSpelling "us-east-1a-+101" "+101" tablet.name ∧
      tablet.name.text ≠ "us-east-1a-+101" := by
  intro name tablet pod
  have held : (Pod.index [pod]).get? "us-east-1a-0000000101" = some pod := by decide +kernel
  have recorded : (Tablet.index [tablet]).get? "us-east-1a-0000000101" = some tablet := by
    decide +kernel
  have spelling : IsSpelling "us-east-1a-+101" "+101" tablet.name :=
    ⟨by decide +kernel, by decide, by decide,
      .signed ⟨by decide, List.all_eq_true.mp (by decide), by decide⟩, by decide⟩
  obtain ⟨reads, _, meets, agree, _, own⟩ := told_by_text
  have tells : pod.Tells tablet.name := (agree _ _ _ _ _ _ held recorded).mp rfl
  have small : tablet.name.uid < uidBound := by decide
  refine ⟨by decide, by decide, reads name (by decide) (by decide), small, tells,
    (meets pod tablet small).mpr tells, held, recorded, spelling, fun same => ?_⟩
  exact absurd ((own _ _ _ spelling).mp same).1 (by decide)

end TabletDrain
