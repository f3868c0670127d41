import ClusterFleet.Text.Blank
import ClusterFleet.Text.Ranges

/-!
# Text — parts and margins

What splitting and trimming come to, said without either. Splitting finds
the parts without a separator that make up the text when they are joined
(`splitAt_eq_iff`); there is one way only to do so. Trimming finds what
stands between margins of blanks (`trim_eq_iff`).
-/

namespace ClusterFleet

namespace Text

variable {separator : Char} {cs core : List Char} {parts : List (List Char)}

/-! ## Parts -/

/-- A text is split as any list is. -/
theorem splitAt_eq_splitOn (separator : Char) (cs : List Char) :
    splitAt separator cs = cs.splitOn separator := by
  induction cs with
  | nil => exact (List.splitOn_nil separator).symm
  | cons c cs ih =>
    obtain ⟨part, parts, hparts⟩ :=
      List.exists_cons_of_ne_nil (List.splitOn_ne_nil separator cs)
    rw [splitAt, ih, List.splitOn_cons_eq_if_modifyHead, hparts]
    simp only [beq_iff_eq, List.modifyHead_cons]

/-- No part holds a separator. -/
theorem separator_notMem (h : core ∈ splitAt separator cs) : separator ∉ core := by
  induction cs generalizing core with
  | nil =>
    rw [List.mem_singleton.1 h]
    exact List.not_mem_nil
  | cons c cs ih =>
    rw [splitAt] at h
    split at h
    · rename_i hnil
      exact absurd (splitAt_eq_splitOn separator cs ▸ hnil) (List.splitOn_ne_nil separator cs)
    · rename_i part parts hparts
      rw [hparts] at ih
      split at h
      · obtain rfl | h := List.mem_cons.1 h
        · exact List.not_mem_nil
        · exact ih h
      · rename_i hc
        obtain rfl | h := List.mem_cons.1 h
        · exact List.not_mem_cons_of_ne_of_not_mem (Ne.symm hc) (ih List.mem_cons_self)
        · exact ih (List.mem_cons_of_mem part h)

/-- **The parts of a text** are what it is joined from: at least one, and no
separator in any. -/
theorem splitAt_eq_iff : splitAt separator cs = parts ↔
    parts ≠ [] ∧ (∀ part ∈ parts, separator ∉ part) ∧ [separator].intercalate parts = cs := by
  constructor
  · rintro rfl
    refine ⟨?_, fun _ => separator_notMem, ?_⟩ <;> rw [splitAt_eq_splitOn]
    · exact List.splitOn_ne_nil separator cs
    · exact List.intercalate_splitOn separator
  · rintro ⟨hne, hparts, rfl⟩
    rw [splitAt_eq_splitOn]
    exact List.splitOn_intercalate separator hparts hne

/-- A text is its only part just if there is no separator in it. -/
theorem splitAt_eq_one_iff : splitAt separator cs = [core] ↔ separator ∉ core ∧ core = cs := by
  rw [splitAt_eq_iff, List.intercalate_singleton, List.forall_mem_singleton]
  exact and_iff_right (List.cons_ne_nil core [])

/-- A text has two parts just if there is one separator in it. -/
theorem splitAt_eq_two_iff {left right : List Char} : splitAt separator cs = [left, right] ↔
    separator ∉ left ∧ separator ∉ right ∧ left ++ separator :: right = cs := by
  rw [splitAt_eq_iff, List.forall_mem_cons, List.forall_mem_singleton, and_assoc,
    List.intercalate_cons_cons, List.intercalate_singleton, List.append_assoc,
    List.singleton_append]
  exact and_iff_right (List.cons_ne_nil left [right])

/-! ## Margins -/

/-- A text is the core with blanks before and after it, or without. -/
def Framed (cs core : List Char) : Prop :=
  ∃ before after, cs = before ++ core ++ after ∧
    (∀ c ∈ before, isBlank c = true) ∧ ∀ c ∈ after, isBlank c = true

theorem skipBlanks_append {before : List Char} (h : ∀ c ∈ before, isBlank c = true)
    (cs : List Char) : skipBlanks (before ++ cs) = skipBlanks cs :=
  List.dropWhile_append_of_pos h

/-- Nothing is skipped in front of a character that is not blank. -/
theorem skipBlanks_cons {c : Char} (h : isBlank c = false) : skipBlanks (c :: cs) = c :: cs := by
  rw [skipBlanks, List.dropWhile_cons, h]
  rfl

theorem skipBlanks_of_head (h : ∀ c ∈ cs, isBlank c = false) (after : List Char)
    (hne : cs ≠ []) : skipBlanks (cs ++ after) = cs ++ after := by
  obtain ⟨c, rest, rfl⟩ := List.exists_cons_of_ne_nil hne
  exact skipBlanks_cons (h c List.mem_cons_self)

/-- What is left of a text that is trimmed stands between blanks. -/
theorem framed_trim (cs : List Char) : Framed cs (trim cs) := by
  refine ⟨cs.takeWhile isBlank, ((skipBlanks cs).reverse.takeWhile isBlank).reverse, ?_, ?_, ?_⟩
  · rw [trim, List.append_assoc, ← List.reverse_append, takeWhile_append_skipBlanks,
      List.reverse_reverse, takeWhile_append_skipBlanks]
  · exact List.all_eq_true.1 List.all_takeWhile
  · intro c hc
    exact List.all_eq_true.1 List.all_takeWhile c (List.mem_reverse.1 hc)

/-- Blanks around a text without blanks are trimmed off. -/
theorem trim_of_framed (h : Framed cs core) (hcore : ∀ c ∈ core, isBlank c = false) :
    trim cs = core := by
  obtain ⟨before, after, rfl, hbefore, hafter⟩ := h
  have hback : ∀ c ∈ after.reverse, isBlank c = true := fun c hc =>
    hafter c (List.mem_reverse.1 hc)
  rw [trim, List.append_assoc, skipBlanks_append hbefore]
  -- without a core there is one margin, and all of it goes from the front
  by_cases hne : core = []
  · have hnone := skipBlanks_append hafter []
    rw [List.append_nil] at hnone
    rw [hne, List.nil_append, hnone]
    rfl
  · have hrev : ∀ c ∈ core.reverse, isBlank c = false := fun c hc => hcore c (List.mem_reverse.1 hc)
    have hskip := skipBlanks_of_head hrev [] (mt List.reverse_eq_nil_iff.1 hne)
    rw [List.append_nil] at hskip
    rw [skipBlanks_of_head hcore after hne, List.reverse_append, skipBlanks_append hback, hskip,
      List.reverse_reverse]

/-- **Trimming finds a text without blanks** just if it stands between
blanks. -/
theorem trim_eq_iff (hcore : ∀ c ∈ core, isBlank c = false) :
    trim cs = core ↔ Framed cs core :=
  ⟨fun h => h ▸ framed_trim cs, fun h => trim_of_framed h hcore⟩

end Text

end ClusterFleet
