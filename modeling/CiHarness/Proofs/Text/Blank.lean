import CiHarness.Text.Blank
import Mathlib.Data.List.DropRight

/-!
# Blanks around a text

A text without the blanks at its ends is known by two things: the text is made from it by putting
blanks before and after it, and it has no blank at its own ends. No other text has both, so a text
that is padded more has the same core. The main statement is `trim_eq_iff`.
-/
namespace CiHarness.Text

/-- The visible characters of ASCII are no blanks. -/
theorem isBlank_of_visible {c : Char} (hfirst : 33 ≤ c.toNat) (hlast : c.toNat ≤ 126) :
    isBlank c = false := by
  simp only [isBlank, Bool.or_eq_false_iff, Bool.and_eq_false_iff, decide_eq_false_iff_not,
    beq_eq_false_iff_ne]
  omega

/-- A text is padded from its core by blanks before and after it. -/
def IsPadded (core s : String) : Prop :=
  ∃ front back : List Char, (∀ c ∈ front, isBlank c = true) ∧ (∀ c ∈ back, isBlank c = true) ∧
    s.toList = front ++ core.toList ++ back

/-- A text is tight if it neither begins nor ends with a blank. -/
structure IsTight (s : String) : Prop where
  head : ∀ c, s.toList.head? = some c → isBlank c = false
  last : ∀ c, s.toList.getLast? = some c → isBlank c = false

/-- A text without blanks is tight. -/
theorem isTight_of_forall {s : String} (h : ∀ c ∈ s.toList, isBlank c = false) : IsTight s where
  head c hc := h c (List.mem_of_mem_head? hc)
  last c hc := h c (List.mem_of_getLast? hc)

namespace IsPadded

variable {core s t : String}

theorem refl (s : String) : IsPadded s s := ⟨[], [], by simp⟩

/-- A blank before a text and one after it pad the text. -/
theorem of_chars (before after : Char) (hbefore : isBlank before = true)
    (hafter : isBlank after = true)
    (hs : s.toList = before :: core.toList ++ [after]) : IsPadded core s :=
  ⟨[before], [after], by simpa using hbefore, by simpa using hafter, hs⟩

theorem trans (hs : IsPadded core s) (ht : IsPadded s t) : IsPadded core t := by
  obtain ⟨front, back, hfront, hback, hs⟩ := hs
  obtain ⟨before, after, hbefore, hafter, ht⟩ := ht
  refine ⟨before ++ front, back ++ after, ?_, ?_, by simp [ht, hs]⟩
  · exact List.forall_mem_append.mpr ⟨hbefore, hfront⟩
  · exact List.forall_mem_append.mpr ⟨hback, hafter⟩

end IsPadded

theorem dropBlanks_append {front : List Char} (h : ∀ c ∈ front, isBlank c = true) (cs : List Char) :
    dropBlanks (front ++ cs) = dropBlanks cs :=
  List.dropWhile_append_of_pos h

theorem dropBlanks_cons {c : Char} (h : isBlank c = false) (cs : List Char) :
    dropBlanks (c :: cs) = c :: cs := by
  rw [dropBlanks, List.dropWhile_cons_of_neg (by simp [h])]

/-- Nothing is dropped from a text that begins with no blank. -/
theorem dropBlanks_eq_self {cs : List Char} (h : ∀ c, cs.head? = some c → isBlank c = false) :
    dropBlanks cs = cs := by
  cases cs with
  | nil => rfl
  | cons c rest => exact dropBlanks_cons (h c rfl) rest

/-- Blanks at both ends are dropped, and nothing else. -/
theorem trimChars_append {front core back : List Char} (hfront : ∀ c ∈ front, isBlank c = true)
    (hback : ∀ c ∈ back, isBlank c = true) (hhead : ∀ c, core.head? = some c → isBlank c = false)
    (hlast : ∀ c, core.getLast? = some c → isBlank c = false) :
    trimChars (front ++ core ++ back) = core := by
  rw [trimChars, List.append_assoc, dropBlanks_append hfront]
  cases core with
  | nil =>
    have hnil : dropBlanks back = [] := List.dropWhile_eq_nil_iff.mpr hback
    rw [List.nil_append, hnil]
    rfl
  | cons c rest =>
    have hstart : dropBlanks (c :: rest ++ back) = c :: rest ++ back := dropBlanks_eq_self hhead
    have hend : dropBlanks (c :: rest).reverse = (c :: rest).reverse :=
      dropBlanks_eq_self (by simpa only [List.head?_reverse] using hlast)
    rw [hstart, List.reverse_append, dropBlanks_append (by simpa using hback), hend,
      List.reverse_reverse]

/-- A tight text is what is left of every text that is padded from it. -/
theorem IsPadded.trim_eq {core s : String} (h : IsPadded core s) (htight : IsTight core) :
    trim s = core := by
  obtain ⟨front, back, hfront, hback, hs⟩ := h
  rw [trim, hs, trimChars_append hfront hback htight.head htight.last, String.ofList_toList]

/-- The core is what stands before the last blanks of what stands after the first ones. -/
theorem toList_trim (s : String) : (trim s).toList = (dropBlanks s.toList).rdropWhile isBlank := by
  rw [trim, String.toList_ofList]
  rfl

theorem isPadded_trim (s : String) : IsPadded (trim s) s := by
  refine ⟨s.toList.takeWhile isBlank, (dropBlanks s.toList).rtakeWhile isBlank, ?front, ?back,
    ?parts⟩
  case front => exact fun c hc => List.mem_takeWhile_imp hc
  case back => exact fun c hc => List.mem_rtakeWhile_imp hc
  case parts =>
    rw [toList_trim, List.append_assoc, List.rdropWhile_append_rtakeWhile, dropBlanks,
      List.takeWhile_append_dropWhile]

theorem isTight_trim (s : String) : IsTight (trim s) where
  head c hc := by
    obtain ⟨rest, hrest⟩ := List.head?_eq_some_iff.mp hc
    obtain ⟨back, hback⟩ := List.rdropWhile_prefix isBlank (dropBlanks s.toList)
    -- The core begins with what is left after the blanks at the front.
    have hhead : (s.toList.dropWhile isBlank).head? = some c := by
      rw [toList_trim] at hrest
      rw [← dropBlanks, ← hback, hrest]
      rfl
    have hnot := List.head?_dropWhile_not isBlank s.toList
    rwa [hhead] at hnot
  last c hc := by
    have hne : (dropBlanks s.toList).rdropWhile isBlank ≠ [] := by
      rintro hnil
      rw [toList_trim, hnil] at hc
      cases hc
    have hlast := List.rdropWhile_last_not isBlank _ hne
    rw [toList_trim, List.getLast?_eq_some_getLast hne, Option.some.injEq] at hc
    simpa [hc] using hlast

/-- **The core of a text** is the one text without blanks at its ends that the text is padded
from. -/
theorem trim_eq_iff {s core : String} : trim s = core ↔ IsPadded core s ∧ IsTight core := by
  constructor
  · rintro rfl
    exact ⟨isPadded_trim s, isTight_trim s⟩
  · rintro ⟨hpadded, htight⟩
    exact hpadded.trim_eq htight

/-- More blanks at the ends do not change the core. -/
theorem IsPadded.trim_congr {s t : String} (h : IsPadded s t) : trim t = trim s :=
  ((isPadded_trim s).trans h).trim_eq (isTight_trim s)

end CiHarness.Text
