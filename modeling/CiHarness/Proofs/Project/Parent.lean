import CiHarness.Proofs.Project.Layout

/-!
# Project roots as parts of a text

A layout is made from the text of its harness directory alone. The project root is a beginning of
that text: it is cut off before the last component, and the slashes and single dots that would then
stand at its end are cut off as well. No other beginning of the text has all of these properties, so
the project root is known by them. A text that has no component to cut off, or that does not begin
with a slash, is refused as it was given. The main statement is `ofCiDir_cuts_last`.
-/
namespace CiHarness

namespace Path

variable {p root : Path}

theorem isIdle_iff {segment : List Char} :
    isIdle segment = true ↔ segment = [] ∨ segment = ['.'] := by
  simp [isIdle]

/-- The beginning of an idle segment is idle. -/
theorem isIdle_of_append {front back : List Char}
    (h : isIdle (front ++ back) = true) : isIdle front = true := by
  obtain hnil | hdot := isIdle_iff.mp h
  · exact isIdle_iff.mpr (.inl (List.append_eq_nil_iff.mp hnil).1)
  · obtain ⟨rfl, -⟩ | ⟨rfl, -⟩ := List.append_eq_singleton_iff.mp hdot
    · rfl
    · rfl

/-- Only idle segments have no last component. -/
theorem withoutLast?_eq_none_iff {segments : List (List Char)} :
    withoutLast? segments = none ↔ ∀ s ∈ segments, isIdle s = true := by
  rw [withoutLast?]
  cases hd : segments.reverse.dropWhile isIdle with
  | nil =>
    have hall := List.dropWhile_eq_nil_iff.mp hd
    simpa using hall
  | cons last rest =>
    have hne : segments.reverse.dropWhile isIdle ≠ [] := by simp [hd]
    have hnot : ¬ ∀ s ∈ segments, isIdle s = true := by
      intro hall
      exact hne (List.dropWhile_eq_nil_iff.mpr (by simpa using hall))
    simp [hnot]

/-- What is left of the segments ends with a component. -/
theorem isIdle_of_withoutLast? {segments before : List (List Char)}
    (h : withoutLast? segments = some before) {s : List Char}
    (hs : before.getLast? = some s) : isIdle s = false := by
  rw [withoutLast?] at h
  split at h
  · cases h
  · next rest _ =>
    obtain rfl := Option.some.inj h
    rw [List.getLast?_reverse] at hs
    have hnot := List.head?_dropWhile_not isIdle rest
    rwa [hs] at hnot

/-- An absolute path has no parent exactly if it has no component. -/
theorem parent?_eq_none_iff (h : p.isAbsolute = true) :
    p.parent? = none ↔ ∀ s ∈ p.segments, isIdle s = true := by
  obtain ⟨body, hbody⟩ := (isAbsolute_iff p).mp h
  rw [parent?, segments, hbody, Text.pieces_mark, List.forall_mem_cons]
  simp only [Option.map_eq_none_iff, withoutLast?_eq_none_iff]
  exact (and_iff_right rfl).symm

/-- The text of the parent and the text of the path, both by their segments. -/
theorem exists_segments_of_parent? (h : p.parent? = some root) :
    ∃ before rest, withoutLast? (before ++ rest) = some before ∧ rest ≠ [] ∧
      p.text.toList = '/' :: Text.joinPieces '/' (before ++ rest) ∧
      root.text.toList = '/' :: Text.joinPieces '/' before ∧ ∀ s ∈ before, '/' ∉ s := by
  rw [parent?] at h
  split at h
  · next body htext =>
    obtain ⟨before, hbefore, rfl⟩ := Option.map_eq_some_iff.mp h
    obtain ⟨between, last, after, hbody, -⟩ := eq_of_withoutLast? hbefore
    rw [List.append_assoc] at hbody
    refine ⟨before, between ++ last :: after, hbody ▸ hbefore, by simp, ?text, by simp, ?marks⟩
    case text => rw [← hbody, Text.joinPieces_pieces, htext]
    case marks =>
      intro s hs
      have hmem : s ∈ Text.pieces '/' body := by
        rw [hbody]
        exact List.mem_append_left _ hs
      exact Text.not_mem_of_mem_pieces hmem
  · cases h

/-- The text of a path begins with that of its parent. -/
theorem isPrefix_text_of_parent? (h : p.parent? = some root) :
    root.text.toList <+: p.text.toList := by
  obtain ⟨before, rest, -, hrest, htext, hroot, -⟩ := exists_segments_of_parent? h
  rw [htext, hroot]
  by_cases hnil : before = []
  · subst hnil
    exact ⟨_, rfl⟩
  · rw [Text.joinPieces_append hnil hrest]
    exact ⟨'/' :: Text.joinPieces '/' rest, by simp⟩

/-! ## Where a text can be cut -/

/-- A path is tidy if no slash and no single dot stands at its end, unless it is a slash and nothing
else. -/
def IsTidy (p : Path) : Prop :=
  p.text = "/" ∨ ¬ ['/'] <:+ p.text.toList ∧ ¬ ['/', '.'] <:+ p.text.toList

/-- An absolute path other than the root is tidy exactly if its last segment names a place. -/
theorem isTidy_iff (h : p.isAbsolute = true) :
    p.IsTidy ↔ p.text = "/" ∨ ∀ s, p.segments.getLast? = some s → isIdle s = false := by
  obtain ⟨body, hbody⟩ := (isAbsolute_iff p).mp h
  -- The segments end with an idle one exactly if the text ends with a slash and that segment.
  have hends (s : List Char) (hs : '/' ∉ s) : p.segments.getLast? = some s ↔
      '/' :: s <:+ p.text.toList := by
    have hne : Text.pieces '/' body ≠ [] := Text.pieces_ne_nil body
    constructor
    · intro hlast
      obtain ⟨front, hfront⟩ := List.getLast?_eq_some_iff.mp hlast
      have hfrontNe : front ≠ [] := by
        rintro rfl
        rw [segments, hbody, Text.pieces_mark, List.nil_append, List.cons.injEq] at hfront
        exact hne hfront.2
      have htext : p.text.toList = Text.joinPieces '/' (front ++ [s]) := by
        rw [← hfront, segments, Text.joinPieces_pieces]
      rw [htext, Text.joinPieces_append hfrontNe (by simp)]
      exact ⟨_, rfl⟩
    · rintro ⟨front, hfront⟩
      rw [segments, ← hfront, Text.pieces_append, Text.pieces_of_not_mem hs, List.getLast?_concat]
  have hslash := hends [] (by simp)
  have hdot := hends ['.'] (by decide)
  rw [IsTidy, ← hslash, ← hdot]
  refine or_congr_right ⟨?_, ?_⟩
  · rintro ⟨hnil, hsingle⟩ s hlast
    rw [← Bool.not_eq_true, isIdle_iff]
    rintro (rfl | rfl)
    · exact hnil hlast
    · exact hsingle hlast
  · intro hlast
    exact ⟨fun hnil => absurd (hlast _ hnil) (by decide), fun hsingle =>
      absurd (hlast _ hsingle) (by decide)⟩

/-- The parent of a path is tidy. -/
theorem isTidy_of_parent? (h : p.parent? = some root) : root.IsTidy := by
  rw [isTidy_iff (isAbsolute_of_parent? h)]
  obtain ⟨before, rest, hwithout, -, -, hroot, hmarks⟩ := exists_segments_of_parent? h
  by_cases hnil : before = []
  · subst hnil
    exact .inl (String.toList_inj.mp hroot)
  · refine .inr fun s hs => isIdle_of_withoutLast? hwithout ?_
    rw [segments, hroot, Text.pieces_mark, Text.pieces_joinPieces hnil hmarks] at hs
    rwa [List.getLast?_cons_of_ne_nil hnil] at hs

/-- Where segments go on from a last one without a new component, and still end with a component,
they do not go on at all. -/
theorem eq_nil_of_named_eq {last first : List Char} {back : List (List Char)}
    (h : named ((last ++ first) :: back) = named [last])
    (hend : ∀ s, ((last ++ first) :: back).getLast? = some s → isIdle s = false) : first = [] ∧
    back = [] := by
  obtain ⟨front, s, hs⟩ : ∃ front s, (last ++ first) :: back = front ++ [s] :=
    ⟨_, _, (List.dropLast_concat_getLast (List.cons_ne_nil _ _)).symm⟩
  have hidle : isIdle s = false := hend s (by simp [hs])
  rw [hs, named_append, named_singleton hidle] at h
  have hlast : isIdle last = false := by
    by_contra hcon
    rw [Bool.not_eq_false] at hcon
    have hnone : named [last] = [] := named_eq_nil (by simpa using hcon)
    simp [hnone] at h
  rw [named_singleton hlast] at h
  obtain ⟨hfront, hsame⟩ | ⟨-, hnil⟩ := List.append_eq_singleton_iff.mp h
  · obtain rfl : s = last := by simpa using hsame
    cases front with
    | nil => simpa using hs
    | cons segment front =>
      -- The grown segment would have to be idle, although what it has grown from is not.
      obtain ⟨rfl, -⟩ := List.cons.inj hs
      have hgrown : isIdle (s ++ first) = true := by
        have hall : ∀ t ∈ (s ++ first) :: front, isIdle t = true := by simpa [named] using hfront
        exact hall _ (by simp)
      rw [isIdle_of_append hgrown] at hidle
      cases hidle
  · cases hnil

/-- A tidy path is not longer than another one that it begins with and that has the same
components. -/
theorem eq_of_isPrefix_of_components {q : Path} (h : p.isAbsolute = true)
    (hbegins : p.text.toList <+: q.text.toList) (hcomponents : q.components = p.components)
    (htidy : q.IsTidy) : p = q := by
  obtain ⟨body, hbody⟩ := (isAbsolute_iff p).mp h
  obtain ⟨more, hmore⟩ := hbegins
  have hq : q.isAbsolute = true :=
    (isAbsolute_iff q).mpr ⟨body ++ more, by rw [← hmore, hbody, List.cons_append]⟩
  suffices hnil : more = [] by
    rw [hnil, List.append_nil, String.toList_inj] at hmore
    exact congrArg Path.mk hmore
  obtain hroot | hlast := (isTidy_iff hq).mp htidy
  · -- Nothing can follow the slash of the root.
    rw [hroot, hbody, List.cons_append] at hmore
    have hnone : body ++ more = [] := (List.cons.inj hmore).2
    exact (List.append_eq_nil_iff.mp hnone).2
  · obtain ⟨front, last, hfront⟩ : ∃ front last, p.segments = front ++ [last] :=
      ⟨_, _, (List.dropLast_concat_getLast (Text.pieces_ne_nil _)).symm⟩
    have hmoreNe : Text.pieces '/' more ≠ [] := Text.pieces_ne_nil more
    obtain ⟨first, back, hback⟩ := List.exists_cons_of_ne_nil hmoreNe
    have hsegments : q.segments = front ++ (last ++ first) :: back := by
      rw [segments, ← hmore, Text.pieces_append_of_pieces hfront hback]
    have hnamed : named ((last ++ first) :: back) = named [last] := by
      have hboth : named (front ++ (last ++ first) :: back) = named (front ++ [last]) := by
        rw [← hsegments, ← hfront]
        exact hcomponents
      rwa [named_append, named_append, List.append_cancel_left_eq] at hboth
    obtain ⟨rfl, rfl⟩ := eq_nil_of_named_eq hnamed fun s hs => hlast s (by simp [hsegments, hs])
    have hjoined : Text.joinPieces '/' (Text.pieces '/' more) = more := Text.joinPieces_pieces more
    rw [← hjoined, hback]
    rfl

/-- A path is another one cut before its last component: a part of its text, from the first slash
on, that is tidy and has all of the components but one. -/
structure IsCutBeforeLast (root p : Path) : Prop where
  begins : root.text.toList <+: p.text.toList
  ne : root ≠ p
  rooted : root.text.toList.head? = some '/'
  tidy : root.IsTidy
  components : ∃ last, p.components = root.components ++ [last]

theorem isCutBeforeLast_of_parent? (h : p.parent? = some root) : root.IsCutBeforeLast p := by
  obtain ⟨last, -, hcomponents⟩ := components_of_parent? h
  refine ⟨isPrefix_text_of_parent? h, ?ne, ?rooted, isTidy_of_parent? h, last, hcomponents⟩
  case ne =>
    rintro rfl
    simp at hcomponents
  case rooted => exact (isAbsolute_iff_head? root).mp (isAbsolute_of_parent? h)

/-- A path can be cut before its last component at one place only. -/
theorem IsCutBeforeLast.unique {other : Path} (h : root.IsCutBeforeLast p)
    (hother : other.IsCutBeforeLast p) :
    other = root := by
  obtain ⟨last, hlast⟩ := h.components
  obtain ⟨last', hlast'⟩ := hother.components
  have hsame : root.components = other.components :=
    List.append_inj_left' (hlast.symm.trans hlast') rfl
  have habs : root.isAbsolute = true := (isAbsolute_iff_head? root).mpr h.rooted
  have habs' : other.isAbsolute = true := (isAbsolute_iff_head? other).mpr hother.rooted
  obtain hbegins | hbegins := List.prefix_or_prefix_of_prefix h.begins hother.begins
  · exact (eq_of_isPrefix_of_components habs hbegins hsame.symm hother.tidy).symm
  · exact eq_of_isPrefix_of_components habs' hbegins hsame h.tidy

theorem forall_split_iff :
    (∀ s ∈ Text.split '/' p.text, s = "" ∨ s = ".") ↔ ∀ s ∈ p.segments, isIdle s = true := by
  have htext (s : List Char) (t : String) : String.ofList s = t ↔ s = t.toList := by
    rw [← String.toList_inj, String.toList_ofList]
  simp only [Text.split, segments, List.forall_mem_map, htext, isIdle_iff]
  rfl

end Path

namespace Layout

/-- **The project root is the text of the harness directory, cut before its last component.** A text
is refused as it was given if it does not begin with a slash, or if there is nothing but empty
segments and single dots between its slashes. Every other text is kept as the harness directory, and
the project root is the one beginning of it that has all of its components but the last and ends
neither with a slash nor with a single dot, or is a slash alone. -/
theorem ofCiDir_cuts_last (p : Path) :
    (ofCiDir p = .error (.invalidPath p .notAbsolute) ↔ p.text.toList.head? ≠ some '/') ∧
    (ofCiDir p = .error (.invalidPath p .noParent) ↔
      p.text.toList.head? = some '/' ∧ ∀ s ∈ Text.split '/' p.text, s = "" ∨ s = ".") ∧
    LayoutFault.notAbsolute.message = "path is not absolute" ∧
    LayoutFault.noParent.message = "harness directory has no parent" ∧
    (p.text.toList.head? = some '/' → (∃ s ∈ Text.split '/' p.text, s ≠ "" ∧ s ≠ ".") →
      ∃ root, ofCiDir p = .ok ⟨root, p⟩ ∧ root.IsCutBeforeLast p ∧
        ∀ other, other.IsCutBeforeLast p → other = root) := by
  rw [ne_eq, ← Path.isAbsolute_iff_head?, Path.forall_split_iff]
  refine ⟨?notAbsolute, ?noParent, rfl, rfl, ?accepted⟩
  case notAbsolute =>
    rw [ofCiDir]
    split
    · next habs => cases p.parent? <;> simp [habs]
    · next habs => simp [habs]
  case noParent =>
    rw [ofCiDir]
    split
    · next habs =>
      rw [← Path.parent?_eq_none_iff habs]
      cases p.parent? <;> simp [habs]
    · next habs => simp [habs]
  case accepted =>
    intro habs hcomponent
    have hsome : p.parent? ≠ none := by
      rw [ne_eq, Path.parent?_eq_none_iff habs, ← Path.forall_split_iff]
      simpa using hcomponent
    obtain ⟨root, hroot⟩ := Option.ne_none_iff_exists'.mp hsome
    have hcut := Path.isCutBeforeLast_of_parent? hroot
    exact ⟨root, ofCiDir_eq_ok_iff.mpr ⟨habs, rfl, hroot⟩, hcut, fun other => hcut.unique⟩

/-- Slashes and single dots on both sides of the last component are cut off with it. -/
example : ofCiDir ⟨"/a//./b//"⟩ = .ok ⟨⟨"/a"⟩, ⟨"/a//./b//"⟩⟩ := by decide

end Layout

end CiHarness
