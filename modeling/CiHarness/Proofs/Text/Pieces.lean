import CiHarness.Text.Pieces
import Mathlib.Data.List.Induction

/-!
# Cutting and joining

Cutting a text at a mark and joining the pieces are inverse to each other: joining undoes every cut,
and pieces without the mark are found again. A text that is put together around a mark is cut there,
and lines that each end with the mark are found again with nothing after the last one. What has no
mark in it stands within one of the pieces, if it stands anywhere.
-/
namespace CiHarness.Text

variable {mark : Char}

theorem pieces_ne_nil (cs : List Char) : pieces mark cs ≠ [] := by
  cases cs with
  | nil => simp [pieces]
  | cons c cs =>
    rw [pieces]
    split
    · simp
    · split <;> simp

@[simp] theorem pieces_mark (cs : List Char) : pieces mark (mark :: cs) = [] :: pieces mark cs := by
  rw [pieces, if_pos rfl]

/-- A character that is no mark goes to the first piece. -/
theorem exists_pieces_cons {c : Char} (hc : c ≠ mark) (cs : List Char) :
    ∃ p ps, pieces mark cs = p :: ps ∧ pieces mark (c :: cs) = (c :: p) :: ps := by
  have hne : pieces mark cs ≠ [] := pieces_ne_nil cs
  obtain ⟨p, ps, hps⟩ := List.exists_cons_of_ne_nil hne
  exact ⟨p, ps, hps, by rw [pieces, if_neg hc, hps]⟩

theorem joinPieces_cons (p : List Char) {ps : List (List Char)} (hps : ps ≠ []) :
    joinPieces mark (p :: ps) = p ++ mark :: joinPieces mark ps := by
  cases ps with
  | nil => exact absurd rfl hps
  | cons q qs => rfl

theorem joinPieces_eq_intercalate (ps : List (List Char)) :
    joinPieces mark ps = [mark].intercalate ps := by
  induction ps with
  | nil => rfl
  | cons p ps ih =>
    cases ps with
    | nil => exact List.intercalate_singleton.symm
    | cons q qs =>
      rw [joinPieces_cons p (List.cons_ne_nil q qs), ih, List.intercalate_cons_cons,
        List.append_assoc]
      rfl

/-- Texts are joined by the mark as a text. -/
theorem join_eq_intercalate (mark : Char) (ss : List String) :
    join mark ss = mark.toString.intercalate ss := by
  rw [join, joinPieces_eq_intercalate, ← String.toList_inj, String.toList_ofList,
    String.toList_intercalate]
  simp

/-- Two rows of pieces are joined with the mark between them. -/
theorem joinPieces_append {ps qs : List (List Char)} (hps : ps ≠ []) (hqs : qs ≠ []) :
    joinPieces mark (ps ++ qs) = joinPieces mark ps ++ mark :: joinPieces mark qs := by
  induction ps with
  | nil => exact absurd rfl hps
  | cons p ps ih =>
    by_cases hnil : ps = []
    · subst hnil
      rw [List.singleton_append, joinPieces_cons p hqs]
      rfl
    · rw [List.cons_append, joinPieces_cons p (by simp [hnil]), joinPieces_cons p hnil, ih hnil,
        List.append_assoc, List.cons_append]

/-- Without a mark between them, the last piece of one row and the first of the other are one
piece. -/
theorem joinPieces_append_cons (ps qs : List (List Char)) (last first : List Char) :
    joinPieces mark (ps ++ (last ++ first) :: qs) =
      joinPieces mark (ps ++ [last]) ++ joinPieces mark (first :: qs) := by
  have hhead : joinPieces mark ((last ++ first) :: qs) = last ++ joinPieces mark (first :: qs) := by
    cases qs <;> simp [joinPieces]
  by_cases hps : ps = []
  · subst hps
    exact hhead
  · rw [joinPieces_append hps (by simp), joinPieces_append hps (by simp), hhead]
    simp [joinPieces]

theorem joinPieces_cons_cons (c : Char) (p : List Char) (ps : List (List Char)) :
    joinPieces mark ((c :: p) :: ps) = c :: joinPieces mark (p :: ps) := by
  cases ps <;> rfl

/-- Nothing is lost by cutting. -/
theorem joinPieces_pieces (cs : List Char) : joinPieces mark (pieces mark cs) = cs := by
  induction cs with
  | nil => rfl
  | cons c cs ih =>
    by_cases hc : c = mark
    · subst hc
      rw [pieces_mark, joinPieces_cons _ (pieces_ne_nil cs), ih, List.nil_append]
    · obtain ⟨p, ps, hps, hcons⟩ := exists_pieces_cons hc cs
      rw [hcons, joinPieces_cons_cons, ← hps, ih]

/-- A text is cut at the mark between its parts. -/
theorem pieces_append (front back : List Char) :
    pieces mark (front ++ mark :: back) = pieces mark front ++ pieces mark back := by
  induction front with
  | nil => simp [pieces]
  | cons c front ih =>
    by_cases hc : c = mark
    · subst hc
      rw [List.cons_append, pieces_mark, pieces_mark, ih, List.cons_append]
    · obtain ⟨p, ps, hps, hcons⟩ := exists_pieces_cons hc front
      obtain ⟨q, qs, hqs, hcons'⟩ := exists_pieces_cons hc (front ++ mark :: back)
      rw [ih, hps, List.cons_append] at hqs
      obtain ⟨rfl, rfl⟩ := List.cons.inj hqs
      rw [List.cons_append, hcons', hcons, List.cons_append]

theorem pieces_of_not_mem {cs : List Char} (h : mark ∉ cs) : pieces mark cs = [cs] := by
  induction cs with
  | nil => rfl
  | cons c cs ih =>
    have hc : c ≠ mark := fun h' => h (by simp [h'])
    rw [pieces, if_neg hc, ih fun h' => h (by simp [h'])]

/-- Pieces without the mark are found again. -/
theorem pieces_joinPieces {ps : List (List Char)} (hps : ps ≠ []) (h : ∀ p ∈ ps, mark ∉ p) :
    pieces mark (joinPieces mark ps) = ps := by
  induction ps with
  | nil => exact absurd rfl hps
  | cons p ps ih =>
    have hp : mark ∉ p := h p (by simp)
    by_cases hnil : ps = []
    · subst hnil
      exact pieces_of_not_mem hp
    · rw [joinPieces_cons p hnil, pieces_append, pieces_of_not_mem hp,
        ih hnil fun q hq => h q (by simp [hq]), List.singleton_append]

/-- No piece holds the mark. -/
theorem not_mem_of_mem_pieces {cs p : List Char} (h : p ∈ pieces mark cs) : mark ∉ p := by
  induction cs generalizing p with
  | nil =>
    rw [pieces, List.mem_singleton] at h
    simp [h]
  | cons c cs ih =>
    by_cases hc : c = mark
    · subst hc
      rw [pieces_mark, List.mem_cons] at h
      obtain rfl | h := h
      · simp
      · exact ih h
    · obtain ⟨q, qs, hqs, hcons⟩ := exists_pieces_cons hc cs
      rw [hcons, List.mem_cons] at h
      obtain rfl | h := h
      · have hq : mark ∉ q := ih (by simp [hqs])
        simp [Ne.symm hc, hq]
      · exact ih (by simp [hqs, h])

/-- A text that is put after another one goes on with its last piece. -/
theorem pieces_append_of_pieces {front back : List Char} {ps qs : List (List Char)}
    {last first : List Char} (hfront : pieces mark front = ps ++ [last])
    (hback : pieces mark back = first :: qs) :
    pieces mark (front ++ back) = ps ++ (last ++ first) :: qs := by
  have hjoined : joinPieces mark (ps ++ (last ++ first) :: qs) = front ++ back := by
    rw [joinPieces_append_cons, ← hfront, ← hback, joinPieces_pieces, joinPieces_pieces]
  have hps : ∀ p ∈ ps ++ [last], mark ∉ p := fun p hp => not_mem_of_mem_pieces (hfront ▸ hp)
  have hqs : ∀ p ∈ first :: qs, mark ∉ p := fun p hp => not_mem_of_mem_pieces (hback ▸ hp)
  have hmarks : ∀ p ∈ ps ++ (last ++ first) :: qs, mark ∉ p := by
    intro p hp
    obtain hp | hp := List.mem_append.mp hp
    · exact hps p (by simp [hp])
    · obtain rfl | hp := List.mem_cons.mp hp
      · simp [hps last (by simp), hqs first (by simp)]
      · exact hqs p (by simp [hp])
  rw [← hjoined, pieces_joinPieces (by simp) hmarks]

theorem mem_joinPieces {ps : List (List Char)} {p : List Char} (hp : p ∈ ps) {c : Char}
    (hc : c ∈ p) :
    c ∈ joinPieces mark ps := by
  induction ps with
  | nil => cases hp
  | cons q qs ih =>
    cases qs with
    | nil =>
      obtain rfl := List.mem_singleton.mp hp
      exact hc
    | cons r rs =>
      rw [joinPieces_cons q (by simp), List.mem_append, List.mem_cons]
      obtain rfl | hmem := List.mem_cons.mp hp
      · exact Or.inl hc
      · exact Or.inr (Or.inr (ih hmem))

/-- Every character of a piece is one of the text. -/
theorem mem_of_mem_pieces {cs p : List Char} (hp : p ∈ pieces mark cs) {c : Char}
    (hc : c ∈ p) : c ∈ cs := by
  have hjoined : joinPieces mark (pieces mark cs) = cs := joinPieces_pieces cs
  rw [← hjoined]
  exact mem_joinPieces hp hc

theorem pieces_flatMap {ps : List (List Char)} (h : ∀ p ∈ ps, mark ∉ p) :
    pieces mark (ps.flatMap (· ++ [mark])) = ps ++ [[]] := by
  induction ps with
  | nil => rfl
  | cons p ps ih =>
    have hp : mark ∉ p := h p (by simp)
    have hps : ∀ q ∈ ps, mark ∉ q := fun q hq => h q (by simp [hq])
    rw [List.flatMap_cons, List.append_assoc, List.singleton_append, pieces_append,
      pieces_of_not_mem hp, ih hps, List.singleton_append, List.cons_append]

/-- Pieces that each begin with the mark are found again, with nothing before the first one. -/
theorem pieces_flatMap_cons {ps : List (List Char)} (h : ∀ p ∈ ps, mark ∉ p) :
    pieces mark (ps.flatMap (mark :: ·)) = [] :: ps := by
  induction ps using List.reverseRecOn with
  | nil => rfl
  | append_singleton ps p ih =>
    have hps : ∀ q ∈ ps, mark ∉ q := fun q hq => h q (by simp [hq])
    have hp : mark ∉ p := h p (by simp)
    rw [List.flatMap_append, List.flatMap_singleton, pieces_append, ih hps, pieces_of_not_mem hp,
      List.cons_append]

/-- A text that is not empty and has no mark stands on one side of a mark or on the other. -/
theorem isInfix_append_mark_iff {needle : List Char} (hne : needle ≠ []) (hmark : mark ∉ needle)
    (front back : List Char) :
    needle <:+: front ++ mark :: back ↔ needle <:+: front ∨ needle <:+: back := by
  -- Whatever of the text came after the front would have to begin with the mark.
  have hstart {part : List Char} (hpart : part ≠ []) (hsub : part ⊆ needle) : ¬ part <+: mark ::
      back := by
    intro hbegins
    obtain ⟨c, rest, rfl⟩ := List.exists_cons_of_ne_nil hpart
    obtain rfl : c = mark := (List.cons_prefix_cons.mp hbegins).1
    exact hmark (hsub List.mem_cons_self)
  rw [List.infix_append_iff_ne_nil, List.infix_cons_iff]
  constructor
  · rintro (hfront | (hbegins | hback) | ⟨before, after, -, hafter, rfl, -, hbegins⟩)
    · exact .inl hfront
    · exact absurd hbegins (hstart hne (List.Subset.refl needle))
    · exact .inr hback
    · exact absurd hbegins (hstart hafter (List.subset_append_right before after))
  · rintro (hfront | hback)
    · exact .inl hfront
    · exact .inr (.inl (.inr hback))

/-- Such a text stands among joined pieces exactly if it stands in one of them. -/
theorem isInfix_joinPieces_iff {needle : List Char} (hne : needle ≠ []) (hmark : mark ∉ needle)
    (ps : List (List Char)) : needle <:+: joinPieces mark ps ↔ ∃ p ∈ ps, needle <:+: p := by
  induction ps with
  | nil => simp [joinPieces, hne]
  | cons p ps ih =>
    by_cases hps : ps = []
    · subst hps
      simp [joinPieces]
    · rw [joinPieces_cons p hps, isInfix_append_mark_iff hne hmark, ih]
      simp

/-- Nothing but the mark is lost by a cut. -/
theorem eq_of_cutFirst {cs before after : List Char} (h : cutFirst mark cs = some (before, after)) :
    cs = before ++ mark :: after := by
  induction cs generalizing before with
  | nil => cases h
  | cons c cs ih =>
    rw [cutFirst] at h
    split at h
    · next hc =>
      obtain ⟨rfl, rfl⟩ := Prod.mk.inj (Option.some.inj h)
      rw [hc, List.nil_append]
    · obtain ⟨⟨front, back⟩, hcut, hpair⟩ := Option.map_eq_some_iff.mp h
      obtain ⟨rfl, rfl⟩ := Prod.mk.inj hpair
      rw [ih hcut, List.cons_append]

theorem eq_of_splitOnce {s before after : String} (h : splitOnce mark s = some (before, after)) :
    s = before ++ String.singleton mark ++ after := by
  obtain ⟨⟨front, back⟩, hcut, hpair⟩ := Option.map_eq_some_iff.mp h
  obtain ⟨rfl, rfl⟩ := Prod.mk.inj hpair
  have hchars : s.toList = front ++ mark :: back := eq_of_cutFirst hcut
  apply String.toList_inj.mp
  simp [hchars, String.toList_append]

/-- Texts are found again after they were joined exactly if there are any, and there is no mark in
them. -/
theorem split_join_iff {ss : List String} :
    split mark (join mark ss) = ss ↔ ss ≠ [] ∧ ∀ s ∈ ss, mark ∉ s.toList := by
  constructor
  · intro h
    refine ⟨?ne, ?marks⟩
    case ne =>
      rintro rfl
      have hpieces : pieces mark (join mark []).toList ≠ [] := pieces_ne_nil _
      exact hpieces (List.map_eq_nil_iff.mp h)
    case marks =>
      intro s hs
      rw [← h] at hs
      obtain ⟨piece, hpiece, rfl⟩ := List.mem_map.mp hs
      rw [String.toList_ofList]
      exact not_mem_of_mem_pieces hpiece
  · rintro ⟨hne, hmarks⟩
    rw [split, join, String.toList_ofList,
      pieces_joinPieces (by simpa using hne) (by simpa using hmarks)]
    simp

/-- Two texts with a mark between them are found again exactly if there is no mark in them. -/
theorem split_append_iff {s t : String} :
    split mark (s ++ String.singleton mark ++ t) = [s, t] ↔ mark ∉ s.toList ∧ mark ∉ t.toList := by
  have hchars : (s ++ String.singleton mark ++ t).toList = s.toList ++ mark :: t.toList := by
    simp [String.toList_append]
  rw [split, hchars, pieces_append]
  constructor
  · intro h
    have hmarks : ∀ p ∈ [s, t], mark ∉ p.toList := by
      intro p hp
      rw [← h, ← pieces_append] at hp
      obtain ⟨piece, hpiece, rfl⟩ := List.mem_map.mp hp
      rw [String.toList_ofList]
      exact not_mem_of_mem_pieces hpiece
    exact ⟨hmarks s (by simp), hmarks t (by simp)⟩
  · rintro ⟨hs, ht⟩
    simp [pieces_of_not_mem hs, pieces_of_not_mem ht]

/-- Between two texts there is a single mark exactly if there is no mark in them. -/
theorem count_append_iff {s t : String} :
    (s ++ String.singleton mark ++ t).toList.count mark = 1 ↔ mark ∉ s.toList ∧
      mark ∉ t.toList := by
  rw [← List.count_eq_zero, ← List.count_eq_zero, String.toList_append, String.toList_append,
    String.toList_singleton, List.count_append, List.count_append, List.count_singleton_self]
  omega

/-- A text is one line if it has no line break. -/
def IsLine (s : String) : Prop := '\n' ∉ s.toList

instance (s : String) : Decidable (IsLine s) := inferInstanceAs (Decidable (_ ∉ _))

@[simp] theorem isLine_append {s t : String} : IsLine (s ++ t) ↔ IsLine s ∧ IsLine t := by
  simp [IsLine, String.toList_append]

/-- A number is written with digits only. -/
theorem not_mem_repr {c : Char} (h : c.isDigit = false) (n : Nat) : c ∉ n.repr.toList := by
  intro hmem
  rw [Nat.toList_repr] at hmem
  have hdigit : c.isDigit = true := Nat.isDigit_of_mem_toDigits (by decide) (by decide) hmem
  rw [h] at hdigit
  cases hdigit

/-- A number is known by its digits. -/
theorem repr_injective : Function.Injective Nat.repr := by
  intro m n h
  have hdigits : Nat.toDigits 10 m = Nat.toDigits 10 n := by
    rw [← Nat.toList_repr, ← Nat.toList_repr, h]
  calc m = Nat.ofDigitChars 10 (Nat.toDigits 10 m) 0 := Nat.ofDigitChars_ten_toDigits.symm
    _ = Nat.ofDigitChars 10 (Nat.toDigits 10 n) 0 := by rw [hdigits]
    _ = n := Nat.ofDigitChars_ten_toDigits

/-- A number stands in one line. -/
@[simp] theorem isLine_repr (n : Nat) : IsLine n.repr := not_mem_repr (by decide) n

/-- Lines that each end with a line break are found again. -/
theorem split_join_lines {lines : List String} (h : ∀ line ∈ lines, IsLine line) :
    split '\n' (String.join (lines.map (· ++ "\n"))) = lines ++ [""] := by
  have hchars : (String.join (lines.map (· ++ "\n"))).toList =
      (lines.map String.toList).flatMap (· ++ ['\n']) := by
    simp [String.toList_join, List.flatMap_map, String.toList_append]
  have hmarks : ∀ p ∈ lines.map String.toList, '\n' ∉ p := by
    intro p hp
    obtain ⟨line, hline, rfl⟩ := List.mem_map.mp hp
    exact h line hline
  rw [split, hchars, pieces_flatMap hmarks]
  simp

end CiHarness.Text
