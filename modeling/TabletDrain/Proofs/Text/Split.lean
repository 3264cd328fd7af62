import TabletDrain.Text.Blank
import TabletDrain.Text.Split
import Mathlib.Data.List.DropRight

/-! Where texts are cut: at the first mark, at the last, at every mark, and at the blanks around a text. -/
namespace TabletDrain.Text

section Marks

variable {mark : Char} {text before after : List Char}

theorem splitFirst_eq_none_iff : splitFirst mark text = none ↔ mark ∉ text := by
  induction text with
  | nil => simp [splitFirst]
  | cons c rest ih =>
    by_cases same : c = mark
    · simp [splitFirst, same]
    · simp [splitFirst, same, Ne.symm same, ih]

theorem splitFirst_append (absent : mark ∉ before) :
    splitFirst mark (before ++ mark :: after) = some (before, after) := by
  induction before with
  | nil => simp [splitFirst]
  | cons c rest ih =>
    simp only [List.mem_cons, not_or] at absent
    simp [splitFirst, ih absent.2, Ne.symm absent.1]

theorem of_splitFirst (split : splitFirst mark text = some (before, after)) :
    text = before ++ mark :: after ∧ mark ∉ before := by
  induction text generalizing before with
  | nil => cases split
  | cons c rest ih =>
    rw [splitFirst] at split
    by_cases same : c = mark
    · rw [if_pos same, Option.some.injEq, Prod.mk.injEq] at split
      obtain ⟨rfl, rfl⟩ := split
      simp [same]
    · rw [if_neg same, Option.map_eq_some_iff] at split
      obtain ⟨⟨others, _⟩, found, parts⟩ := split
      cases parts
      obtain ⟨rfl, absent⟩ := ih found
      simp [Ne.symm same, absent]

theorem splitAll_eq_splitOn (mark : Char) (text : List Char) : splitAll mark text = text.splitOn mark := by
  induction text with
  | nil => rfl
  | cons c rest ih =>
    rw [splitAll, ih, List.splitOn_cons_eq_if_modifyHead]
    by_cases same : c = mark
    · simp [same]
    · obtain ⟨part, parts, split⟩ := List.exists_cons_of_ne_nil (List.splitOn_ne_nil mark rest)
      simp [same, split, consFirst]

theorem splitLast_eq_none (absent : mark ∉ text) : splitLast mark text = none := by
  induction text with
  | nil => rfl
  | cons c rest ih =>
    simp only [List.mem_cons, not_or] at absent
    simp [splitLast, ih absent.2, Ne.symm absent.1]

theorem splitLast_append (absent : mark ∉ after) (before : List Char) :
    splitLast mark (before ++ mark :: after) = some (before, after) := by
  induction before with
  | nil => simp [splitLast, splitLast_eq_none absent]
  | cons c rest ih => simp [splitLast, ih]

theorem of_splitLast (split : splitLast mark text = some (before, after)) :
    text = before ++ mark :: after := by
  induction text generalizing before with
  | nil => cases split
  | cons c rest ih =>
    rw [splitLast] at split
    split at split
    · rename_i found
      cases split
      rw [ih found, List.cons_append]
    · split at split
      · rename_i same
        cases split
        rw [same, List.nil_append]
      · cases split

theorem not_mem_of_mem_splitOn {piece : List Char} (member : piece ∈ text.splitOn mark) : mark ∉ piece := by
  induction text generalizing piece with
  | nil =>
    rw [List.splitOn_nil, List.mem_singleton] at member
    simp [member]
  | cons c rest ih =>
    rw [List.splitOn_cons_eq_if_modifyHead] at member
    split at member
    · rcases List.mem_cons.mp member with rfl | inside
      · exact List.not_mem_nil
      · exact ih inside
    · rename_i other
      obtain ⟨first, others, split⟩ := List.exists_cons_of_ne_nil (List.splitOn_ne_nil mark rest)
      simp only [split, List.modifyHead_cons, List.mem_cons, forall_eq_or_imp] at member ih
      rcases member with rfl | inside
      · rintro (_ | ⟨_, inside⟩)
        · simp at other
        · exact ih.1 inside
      · exact ih.2 piece inside

theorem intercalate_cons (mark : Char) (first : List Char) (pieces : List (List Char)) :
    [mark].intercalate (first :: pieces) = first ++ pieces.flatMap (mark :: ·) := by
  induction pieces generalizing first with
  | nil => simp
  | cons piece rest ih =>
    rw [List.intercalate_cons_of_ne_nil (List.cons_ne_nil _ _), ih, List.flatMap_cons]
    simp

/-- The pieces between the marks, of which none holds the mark. -/
theorem splitOn_eq_cons_iff {first : List Char} {pieces : List (List Char)} :
    text.splitOn mark = first :: pieces ↔
      text = first ++ pieces.flatMap (mark :: ·) ∧ ∀ piece ∈ first :: pieces, mark ∉ piece := by
  rw [← intercalate_cons]
  constructor
  · intro split
    rw [← split, List.intercalate_splitOn]
    exact ⟨rfl, fun piece => not_mem_of_mem_splitOn⟩
  · rintro ⟨rfl, absent⟩
    exact List.splitOn_intercalate mark absent (List.cons_ne_nil _ _)

end Marks

/-- The core is what is left of the text when the blanks around it are gone. -/
structure Trims (text core : List Char) : Prop where
  around : ∃ before after, text = before ++ core ++ after ∧ ∀ c ∈ before ++ after, isBlank c = true
  head : ∀ c ∈ core.head?, isBlank c = false
  last : ∀ c ∈ core.getLast?, isBlank c = false

theorem trimStart_append {before core : List Char} (blank : ∀ c ∈ before, isBlank c = true)
    (head : ∀ c ∈ core.head?, isBlank c = false) : trimStart (before ++ core) = core := by
  rw [trimStart, List.dropWhile_append_of_pos blank]
  cases core with
  | nil => rfl
  | cons c rest => simp [head c rfl]

theorem trim_eq_rdropWhile (text : List Char) : trim text = (trimStart text).rdropWhile isBlank := rfl

theorem Trims.trim_eq {text core : List Char} (trims : Trims text core) : trim text = core := by
  obtain ⟨⟨before, after, rfl, blank⟩, head, last⟩ := trims
  rw [List.forall_mem_append] at blank
  have last' : ∀ c ∈ core.reverse.head?, isBlank c = false := by rwa [List.head?_reverse]
  have blank' : ∀ c ∈ after.reverse, isBlank c = true := fun c member =>
    blank.2 c (List.mem_reverse.mp member)
  by_cases nothing : core = []
  · subst nothing
    have all : ∀ c ∈ before ++ [] ++ after, isBlank c = true := by
      rw [List.append_nil, List.forall_mem_append]
      exact blank
    have gone : trimStart (before ++ [] ++ after) = [] := List.dropWhile_eq_nil_iff.mpr all
    rw [trim, gone]
    rfl
  · have first : ∀ c ∈ (core ++ after).head?, isBlank c = false := by
      rwa [List.head?_append_of_ne_nil _ nothing]
    rw [List.append_assoc, trim, trimStart_append blank.1 first, List.reverse_append,
      trimStart_append blank' last', List.reverse_reverse]

theorem trims_trim (text : List Char) : Trims text (trim text) := by
  have front : text.takeWhile isBlank ++ trimStart text = text := List.takeWhile_append_dropWhile
  have back : trim text ++ (trimStart text).rtakeWhile isBlank = trimStart text :=
    List.rdropWhile_append_rtakeWhile
  refine ⟨⟨text.takeWhile isBlank, (trimStart text).rtakeWhile isBlank, ?_, ?_⟩, ?_, ?_⟩
  · rw [List.append_assoc, back, front]
  · intro c member
    rcases List.mem_append.mp member with inside | inside
    · exact List.mem_takeWhile_imp inside
    · exact List.mem_rtakeWhile_imp inside
  · intro c first
    obtain ⟨rest, same⟩ := List.head?_eq_some_iff.mp first
    have begins : (text.dropWhile isBlank).head? = some c := by
      change (trimStart text).head? = some c
      rw [← back, same]
      rfl
    have kept := List.head?_dropWhile_not isBlank text
    rw [begins] at kept
    exact kept
  · intro c final
    have some : (trimStart text).rdropWhile isBlank ≠ [] := List.ne_nil_of_mem (List.mem_of_getLast? final)
    have kept := List.rdropWhile_last_not isBlank _ some
    rw [trim_eq_rdropWhile, List.getLast?_eq_some_getLast some, Option.mem_def, Option.some.injEq] at final
    rwa [final, Bool.not_eq_true] at kept

theorem trims_iff {text core : List Char} : Trims text core ↔ trim text = core := by
  constructor
  · exact Trims.trim_eq
  · rintro rfl
    exact trims_trim text

end TabletDrain.Text
