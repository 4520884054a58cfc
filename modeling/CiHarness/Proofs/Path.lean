import CiHarness.Path
import CiHarness.Proofs.Text.Pieces
import Mathlib.Data.List.TakeWhile

/-!
# Components of paths

A path is read by its components, and the operations on paths are known by what they do to them: the
parent loses the last component, and a joined name adds its own. Two absolute paths with the same
components lead to the same place in every file system.
-/
namespace CiHarness.Path

/-- The pieces that name a place. -/
def named (segments : List (List Char)) : List (List Char) := segments.filter (!isIdle ·)

theorem components_eq (p : Path) : p.components = named (Text.pieces '/' p.text.toList) := rfl

@[simp] theorem named_append (ps qs : List (List Char)) :
    named (ps ++ qs) = named ps ++ named qs := by
  simp [named]

@[simp] theorem named_nil_cons (ps : List (List Char)) : named ([] :: ps) = named ps := rfl

theorem named_eq_nil {ps : List (List Char)} (h : ∀ p ∈ ps, isIdle p = true) : named ps = [] := by
  simpa [named] using h

theorem named_singleton {p : List Char} (h : isIdle p = false) : named [p] = [p] := by
  simp [named, h]

/-- The last component is taken away with the idle segments around it, and nothing else is. -/
theorem eq_of_withoutLast? {segments before : List (List Char)}
    (h : withoutLast? segments = some before) :
    ∃ between last after, segments = before ++ between ++ last :: after ∧
      (∀ p ∈ between, isIdle p = true) ∧ isIdle last = false ∧ ∀ p ∈ after, isIdle p = true := by
  rw [withoutLast?] at h
  cases hd : segments.reverse.dropWhile isIdle with
  | nil => simp [hd] at h
  | cons last rest =>
    have hbefore : (rest.dropWhile isIdle).reverse = before := by simpa [hd] using h
    have hlast : isIdle last = false := by
      have hne : segments.reverse.dropWhile isIdle ≠ [] := by simp [hd]
      have hhead := List.head_dropWhile_not isIdle hne
      simpa [hd] using hhead
    have hsegments : segments.reverse = segments.reverse.takeWhile isIdle ++ last :: rest := by
      rw [← hd, List.takeWhile_append_dropWhile]
    have hrest : rest.reverse = before ++ (rest.takeWhile isIdle).reverse := by
      rw [← hbefore, ← List.reverse_append, List.takeWhile_append_dropWhile]
    refine ⟨(rest.takeWhile isIdle).reverse, last, (segments.reverse.takeWhile isIdle).reverse,
      ?_, ?_, hlast, ?_⟩
    · rw [← hrest]
      simpa using congrArg List.reverse hsegments
    · intro p hp
      exact List.mem_takeWhile_imp (List.mem_reverse.mp hp)
    · intro p hp
      exact List.mem_takeWhile_imp (List.mem_reverse.mp hp)

/-- Pieces that were joined have the same components as before. -/
theorem named_pieces_joinPieces {ps : List (List Char)} (h : ∀ p ∈ ps, '/' ∉ p) :
    named (Text.pieces '/' (Text.joinPieces '/' ps)) = named ps := by
  cases ps with
  | nil => decide
  | cons p ps => rw [Text.pieces_joinPieces (by simp) h]

/-- The parent of a path has all its components but the last one. -/
theorem components_of_parent? {p q : Path} (h : p.parent? = some q) :
    ∃ last, isIdle last = false ∧ p.components = q.components ++ [last] := by
  rw [parent?] at h
  split at h
  · next body htext =>
    obtain ⟨before, hbefore, rfl⟩ := Option.map_eq_some_iff.mp h
    obtain ⟨between, last, after, hbody, hbetween, hlast, hafter⟩ := eq_of_withoutLast? hbefore
    have hmarks : ∀ piece ∈ before, '/' ∉ piece := by
      intro piece hpiece
      have hmem : piece ∈ Text.pieces '/' body := by
        rw [hbody]
        simp [hpiece]
      exact Text.not_mem_of_mem_pieces hmem
    refine ⟨last, hlast, ?_⟩
    rw [components_eq, components_eq, htext, String.toList_ofList, Text.pieces_mark,
      Text.pieces_mark,
      named_nil_cons, named_nil_cons, hbody, named_pieces_joinPieces hmarks, named_append,
      named_append,
      named_eq_nil hbetween, ← List.singleton_append, named_append, named_singleton hlast,
      named_eq_nil hafter, List.append_nil, List.append_nil]
  · cases h

/-- A parent is absolute. -/
theorem isAbsolute_of_parent? {p q : Path} (h : p.parent? = some q) : q.isAbsolute = true := by
  rw [parent?] at h
  split at h
  · obtain ⟨before, -, rfl⟩ := Option.map_eq_some_iff.mp h
    simp [isAbsolute]
  · cases h

/-! ## Joined names -/

theorem isAbsolute_iff (p : Path) : p.isAbsolute = true ↔ ∃ body, p.text.toList = '/' :: body := by
  rw [isAbsolute]
  split
  · next body h => simp [h]
  · next h => simpa using fun body hbody => h body hbody

theorem isAbsolute_iff_head? (p : Path) : p.isAbsolute = true ↔ p.text.toList.head? = some '/' := by
  rw [isAbsolute_iff, List.head?_eq_some_iff]

/-- Only absolute paths have a parent. -/
theorem isAbsolute_of_parent?_eq_some {p parent : Path}
    (h : p.parent? = some parent) : p.isAbsolute = true := by
  rw [parent?] at h
  split at h
  · next body htext => exact (isAbsolute_iff p).mpr ⟨body, htext⟩
  · cases h

/-- The text of a path without one slash at its end. -/
def stem (p : Path) : List Char :=
  if p.text.toList.getLast? = some '/' then p.text.toList.dropLast else p.text.toList

theorem components_eq_stem (p : Path) : p.components = named (Text.pieces '/' p.stem) := by
  rw [components_eq, stem]
  split
  · next h =>
    obtain ⟨front, hfront⟩ := List.getLast?_eq_some_iff.mp h
    rw [hfront, List.dropLast_concat, Text.pieces_append, named_append]
    exact List.append_nil _
  · rfl

/-- The stem of an absolute path is empty or begins with the slash of the path. -/
theorem stem_of_isAbsolute {p : Path} (h : p.isAbsolute = true) :
    p.stem = [] ∨ ∃ body, p.stem = '/' :: body := by
  obtain ⟨body, hbody⟩ := (isAbsolute_iff p).mp h
  rw [stem, hbody]
  split
  · cases body with
    | nil => exact Or.inl rfl
    | cons c body => exact Or.inr ⟨_, List.dropLast_cons_cons⟩
  · exact Or.inr ⟨body, rfl⟩

/-- A name is joined to an absolute path by one slash. -/
theorem toList_join {p : Path} (h : p.isAbsolute = true) (name : String) :
    (p.join name).text.toList = p.stem ++ '/' :: name.toList := by
  obtain ⟨body, hbody⟩ := (isAbsolute_iff p).mp h
  have hne : p.text ≠ "" := by
    rintro hempty
    rw [hempty] at hbody
    cases hbody
  by_cases hslash : p.text.toList.getLast? = some '/'
  · obtain ⟨front, hfront⟩ := List.getLast?_eq_some_iff.mp hslash
    rw [join, if_pos (Or.inl hslash), stem, if_pos hslash, String.toList_append, hfront,
      List.dropLast_concat, List.append_assoc, List.singleton_append]
  · rw [join, if_neg (by simp [hslash, hne]), stem, if_neg hslash]
    simp [String.toList_append]

theorem isAbsolute_join {p : Path} (h : p.isAbsolute = true) (name : String) :
    (p.join name).isAbsolute = true := by
  obtain ⟨body, hbody⟩ := (isAbsolute_iff p).mp h
  rw [join]
  split <;> simp [isAbsolute_iff, String.toList_append, hbody]

/-- A joined name adds its components. -/
theorem components_join {p : Path} (h : p.isAbsolute = true) (name : String) :
    (p.join name).components = p.components ++ (Path.mk name).components := by
  rw [components_eq, toList_join h, Text.pieces_append, named_append, components_eq_stem,
    components_eq]

theorem withoutLast?_append_singleton {segments : List (List Char)} {last name : List Char}
    (hlast : segments.getLast? = some last) (hidle : isIdle last = false)
    (hname : isIdle name = false) :
    withoutLast? (segments ++ [name]) = some segments := by
  obtain ⟨front, rfl⟩ := List.getLast?_eq_some_iff.mp hlast
  simp [withoutLast?, hidle, hname]

/-- Segments that all name a place lose just the last one. -/
theorem withoutLast?_append {segments : List (List Char)} {name : List Char}
    (h : ∀ p ∈ segments, isIdle p = false) (hname : isIdle name = false) :
    withoutLast? (segments ++ [name]) = some segments := by
  cases segments using List.reverseRecOn with
  | nil => simp [withoutLast?, hname]
  | append_singleton front last =>
    exact withoutLast?_append_singleton (List.getLast?_concat ..) (h last (by simp)) hname

/-- A file that is named below a directory lies in that directory. -/
theorem parent?_join {p : Path} (h : p.isAbsolute = true) {dir file : String}
    (hdir : '/' ∉ dir.toList) (hdir' : isIdle dir.toList = false)
    (hfile : '/' ∉ file.toList) (hfile' : isIdle file.toList = false) :
    (p.join (dir ++ "/" ++ file)).parent? = some (p.join dir) := by
  have hjoined := toList_join h dir
  -- What follows the first slash ends with the name of the directory, also if the path ends with a
  -- slash.
  obtain ⟨body, hbody, hlast⟩ : ∃ body, p.stem ++ '/' :: dir.toList = '/' :: body ∧
      (Text.pieces '/' body).getLast? = some dir.toList := by
    obtain hs | ⟨s, hs⟩ := stem_of_isAbsolute h
    · exact ⟨dir.toList, by simp [hs], by simp [Text.pieces_of_not_mem hdir]⟩
    · refine ⟨s ++ '/' :: dir.toList, by simp [hs], ?_⟩
      simp [Text.pieces_append, Text.pieces_of_not_mem hdir]
  have htext : (p.join (dir ++ "/" ++ file)).text.toList = '/' :: (body ++ '/' :: file.toList) := by
    rw [toList_join h, ← List.cons_append, ← hbody]
    simp [String.toList_append]
  have hwithout := withoutLast?_append_singleton hlast hdir' hfile'
  rw [parent?, htext]
  simp only [Text.pieces_append, Text.pieces_of_not_mem hfile, hwithout, Option.map_some,
    Text.joinPieces_pieces, ← hbody, ← hjoined, String.ofList_toList]

end CiHarness.Path
