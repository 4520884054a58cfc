import CiHarness.Host.FileTree
import CiHarness.Proofs.Path
import Mathlib.Tactic.MkIffOfInductiveProp

/-!
# Canonical places

A place of a file tree is canonical if its names lead from directory to directory and over no link.
Then a walk over them goes straight on, name by name, and so the path of the place leads to it from
every working directory. And every walk ends at such a place: a step of it goes back, goes on to
what is no link, or puts the names of a link in place of its own. The main statements are
`view_of_isCanonical` and `exists_isCanonical_of_canonicalize`.
-/
namespace CiHarness

namespace FileTree

/-- What can stand between the slashes of a path. -/
@[mk_iff] structure IsSegment (s : String) : Prop where
  no_slash : '/' ∉ s.toList
  no_nul : '\x00' ∉ s.toList

/-- What can be the name of something in a directory. -/
@[mk_iff] structure IsName (name : String) : Prop extends IsSegment name where
  ne_empty : name ≠ ""
  ne_dot : name ≠ "."
  ne_dots : name ≠ ".."
  size_le : name.utf8ByteSize ≤ nameLimit

instance (s : String) : Decidable (IsSegment s) := decidable_of_iff _ (isSegment_iff s).symm

instance (name : String) : Decidable (IsName name) := decidable_of_iff _ (isName_iff name).symm

/-- Names lead on from a place if each of them is, in a directory, the name of something that is no
link. -/
def Leads (t : FileTree) : Place → List String → Prop
  | _, [] => True
  | here, name :: rest =>
    t.isDirectoryAt here = true ∧ IsName name ∧
      (here ++ [name]).toPath.text.utf8ByteSize ≤ pathLimit ∧
      (t.entry? (here ++ [name])).any (!·.isLink) = true ∧ t.Leads (here ++ [name]) rest

/-- A place is canonical if its names lead to it from the root. -/
def IsCanonical (t : FileTree) (here : Place) : Prop := t.Leads [] here

instance decidableLeads (t : FileTree) :
    (here : Place) → (names : List String) → Decidable (t.Leads here names)
  | _, [] => isTrue trivial
  | here, name :: rest =>
    have := decidableLeads t (here ++ [name]) rest
    inferInstanceAs (Decidable (_ ∧ _))

instance (t : FileTree) (here : Place) : Decidable (t.IsCanonical here) := decidableLeads t [] here

variable {t : FileTree} {here : Place}

@[simp] theorem isDirectoryAt_nil : t.isDirectoryAt [] = true := rfl

/-! ## Walks -/

theorem walk_nil (links : Nat) : t.walk links here [] = .ok here := by
  rw [walk]

theorem walk_empty (h : t.isDirectoryAt here = true) (links : Nat) (rest : List String) :
    t.walk links here ("" :: rest) = t.walk links here rest := by
  simp [walk, h]

theorem walk_up (h : t.isDirectoryAt here = true) (links : Nat) (rest : List String) :
    t.walk links here (".." :: rest) = t.walk links here.dropLast rest := by
  simp [walk, h]

/-- What a walk does at a name depends on what has the name. -/
theorem walk_cons (h : t.isDirectoryAt here = true) {name : String} (hname : IsName name)
    (hfits : (here ++ [name]).toPath.text.utf8ByteSize ≤ pathLimit) (links : Nat)
    (rest : List String) :
    t.walk links here (name :: rest) =
      match (t.entry? (here ++ [name])).map Entry.content with
      | none => .error .noSuchEntry
      | some (.link target) =>
        match links with
        | 0 => .error .symlinkLoop
        | links + 1 =>
          t.walk links (if (Path.mk target).isAbsolute then [] else here)
            (Text.split '/' target ++ rest)
      | some _ => t.walk links (here ++ [name]) rest := by
  have hshort : name.utf8ByteSize ≤ nameLimit := hname.size_le
  have hlong : ¬ (nameLimit < name.utf8ByteSize ∨
      pathLimit < (here ++ [name]).toPath.text.utf8ByteSize) := by
    omega
  have hidle : ¬ (name = "" ∨ name = ".") := by simp [hname.ne_empty, hname.ne_dot]
  rw [walk]
  cases hfound : (t.entry? (here ++ [name])).map Entry.content with
  | none => simp [h, hidle, hname.ne_dots, hlong, hfound]
  | some content =>
    cases content with
    | link target => cases links <;> simp [h, hidle, hname.ne_dots, hlong, hfound]
    | _ => simp [h, hidle, hname.ne_dots, hlong, hfound]

theorem walk_name (h : t.isDirectoryAt here = true) {name : String} (hname : IsName name)
    (hfits : (here ++ [name]).toPath.text.utf8ByteSize ≤ pathLimit) (links : Nat)
    (rest : List String) :
    ((t.entry? (here ++ [name])).any (!·.isLink) = true →
      t.walk links here (name :: rest) = t.walk links (here ++ [name]) rest) ∧
    (t.entry? (here ++ [name]) = none →
      t.walk links here (name :: rest) = .error .noSuchEntry) := by
  rw [walk_cons h hname hfits]
  cases hentry : t.entry? (here ++ [name]) with
  | none => simp
  | some entry =>
    obtain ⟨content, mode, time⟩ := entry
    cases content <;> simp [Entry.isLink]

/-- A link that is met on a walk is walked in place of its name. -/
theorem walk_link (h : t.isDirectoryAt here = true) {name : String} (hname : IsName name)
    (hfits : (here ++ [name]).toPath.text.utf8ByteSize ≤ pathLimit) {target : String}
    (hlink : (t.entry? (here ++ [name])).map Entry.content = some (.link target)) (links : Nat)
    (rest : List String) :
    t.walk (links + 1) here (name :: rest) =
      t.walk links (if (Path.mk target).isAbsolute then [] else here)
        (Text.split '/' target ++ rest) := by
  simp only [walk_cons h hname hfits, hlink]

/-- A walk goes straight over the names that lead on. -/
theorem walk_append {front : List String} (h : t.Leads here front) (links : Nat)
    (back : List String) :
    t.walk links here (front ++ back) = t.walk links (here ++ front) back := by
  induction front generalizing here with
  | nil => simp
  | cons name front ih =>
    obtain ⟨hhere, hname, hfits, hentry, hfront⟩ := h
    rw [List.cons_append, (walk_name hhere hname hfits links (front ++ back)).1 hentry, ih hfront,
      List.append_assoc, List.singleton_append]

/-! ## Where walks end -/

theorem isSegment_of_mem_split {s : String} (h : hasNul s = false) {name : String}
    (hname : name ∈ Text.split '/' s) : IsSegment name := by
  obtain ⟨p, hp, rfl⟩ := List.mem_map.mp hname
  have hnul : '\x00' ∉ s.toList := by simpa [hasNul] using h
  refine ⟨?slash, ?nul⟩
  case slash => simpa using Text.not_mem_of_mem_pieces hp
  case nul => simpa using fun hmem => hnul (Text.mem_of_mem_pieces hp hmem)

/-- The links of a tree lead to paths. -/
def HasPathLinks (t : FileTree) : Prop :=
  ∀ here entry target, t.entry? here = some entry → entry.content = .link target →
    hasNul target = false

/-- It is enough that this is so for all that was ever put into the tree. -/
theorem hasPathLinks_of_forall
    (h : ∀ place ∈ t.entries, ∀ target, place.2.content = .link target →
      hasNul target = false) : t.HasPathLinks := by
  intro here entry target hentry hlink
  unfold entry? at hentry
  split at hentry
  · obtain rfl := Option.some.inj hentry
    cases hlink
  · obtain ⟨front, back, hentries, -⟩ := List.lookup_eq_some_iff.mp hentry
    exact h (here, entry) (by simp [hentries]) target hlink

theorem leads_append_iff {front back : List String} :
    t.Leads here (front ++ back) ↔ t.Leads here front ∧ t.Leads (here ++ front) back := by
  induction front generalizing here with
  | nil => simp [Leads]
  | cons name front ih => simp [Leads, ih, and_assoc]

/-- A name in a canonical directory leads to a canonical place if there is something that is no
link. -/
theorem isCanonical_concat_iff {name : String} :
    t.IsCanonical (here ++ [name]) ↔ t.IsCanonical here ∧ t.isDirectoryAt here = true ∧
      IsName name ∧
      (here ++ [name]).toPath.text.utf8ByteSize ≤ pathLimit ∧
      (t.entry? (here ++ [name])).any (!·.isLink) = true := by
  rw [IsCanonical, leads_append_iff, List.nil_append, IsCanonical, Leads, Leads, and_true]

/-- A canonical place holds something, and no link. -/
theorem IsCanonical.exists_entry (h : t.IsCanonical here) :
    ∃ entry, t.entry? here = some entry ∧ entry.isLink = false := by
  cases here using List.reverseRecOn with
  | nil => exact ⟨.directory, rfl, rfl⟩
  | append_singleton front last =>
    obtain ⟨-, -, -, -, hentry⟩ := isCanonical_concat_iff.mp h
    simpa [Option.any_eq_true] using hentry

theorem IsCanonical.dropLast (h : t.IsCanonical here) : t.IsCanonical here.dropLast := by
  cases here using List.reverseRecOn with
  | nil => exact h
  | append_singleton front last =>
    rw [List.dropLast_concat]
    exact (isCanonical_concat_iff.mp h).1

/-- **A walk from a canonical place ends at one**, whatever links it follows and however it goes
back. -/
theorem isCanonical_of_walk (hlinks : t.HasPathLinks) {links : Nat} {names : List String}
    {there : Place} (hhere : t.IsCanonical here) (hnames : ∀ name ∈ names, IsSegment name)
    (h : t.walk links here names = .ok there) : t.IsCanonical there := by
  fun_induction FileTree.walk t links here names with
  | case1 links here =>
    obtain rfl := Except.ok.inj h
    exact hhere
  | case2 | case5 | case6 | case7 => cases h
  | case3 links here name rest hdir hidle ih =>
    exact ih hhere (List.forall_mem_cons.mp hnames).2 h
  | case4 links here rest hdir hidle ih =>
    exact ih hhere.dropLast (List.forall_mem_cons.mp hnames).2 h
  | case8 here name rest hdir hidle hdots next hfits target hentry links ih =>
    refine ih ?start ?segments h
    case start =>
      split
      · exact trivial
      · exact hhere
    case segments =>
      obtain ⟨entry, hentry, hcontent⟩ := Option.map_eq_some_iff.mp hentry
      have htarget : hasNul target = false := hlinks next entry target hentry hcontent
      intro other hother
      obtain hother | hother := List.mem_append.mp hother
      · exact isSegment_of_mem_split htarget hother
      · exact (List.forall_mem_cons.mp hnames).2 other hother
  | case9 links here name rest hdir hidle hdots next hfits content hlink hentry ih =>
    obtain ⟨entry, hsome, rfl⟩ := Option.map_eq_some_iff.mp hentry
    obtain ⟨hsegment, hrest⟩ := List.forall_mem_cons.mp hnames
    have hname : IsName name :=
      ⟨hsegment, fun h => hidle (.inl h), fun h => hidle (.inr h), hdots, by omega⟩
    have hstraight : (t.entry? next).any (!·.isLink) = true := by
      rw [hsome, Option.any_some, Entry.isLink]
      split
      · next target hcontent => exact absurd hcontent (hlink target)
      · rfl
    have hsize : next.toPath.text.utf8ByteSize ≤ pathLimit := by omega
    have hnext : t.IsCanonical next :=
      isCanonical_concat_iff.mpr ⟨hhere, by simpa using hdir, hname, hsize, hstraight⟩
    exact ih hnext hrest h

/-! ## Paths of places -/

theorem Leads.isName {names : List String} (h : t.Leads here names) :
    ∀ name ∈ names, IsName name := by
  induction names generalizing here with
  | nil => simp
  | cons name rest ih =>
    obtain ⟨-, hname, -, -, hrest⟩ := h
    exact List.forall_mem_cons.mpr ⟨hname, ih hrest⟩

/-- Every name has a slash before it. -/
theorem toList_toPath (hne : here ≠ []) :
    here.toPath.text.toList = (here.map String.toList).flatMap ('/' :: ·) := by
  simp [Place.toPath, hne, String.toList_join, List.flatMap_map, String.toList_append]

/-- A path of names is cut into them again. -/
theorem split_toPath (hne : here ≠ []) (h : ∀ name ∈ here, IsName name) :
    Text.split '/' here.toPath.text = "" :: here := by
  have hmarks : ∀ p ∈ here.map String.toList, '/' ∉ p := by
    intro p hp
    obtain ⟨name, hname, rfl⟩ := List.mem_map.mp hp
    exact (h name hname).no_slash
  rw [Text.split, toList_toPath hne, Text.pieces_flatMap_cons hmarks]
  simp

/-- A path of names begins with a slash. -/
theorem exists_toList_toPath (here : Place) : ∃ body, here.toPath.text.toList = '/' :: body := by
  cases here with
  | nil => exact ⟨[], rfl⟩
  | cons name rest => simp [toList_toPath]

@[simp] theorem isAbsolute_toPath (here : Place) : here.toPath.isAbsolute = true :=
  (Path.isAbsolute_iff _).mpr (exists_toList_toPath here)

/-- The pieces of the path of a place are its names, once the first slash is gone. -/
theorem pieces_toPath {body : List Char} (hne : here ≠ []) (h : ∀ name ∈ here, IsName name)
    (hbody : here.toPath.text.toList = '/' :: body) :
    Text.pieces '/' body = here.map String.toList := by
  have hsplit := split_toPath hne h
  rw [Text.split, hbody, Text.pieces_mark, List.map_cons, List.cons.injEq] at hsplit
  rw [← hsplit.2, List.map_map]
  simp [Function.comp_def]

theorem IsName.not_isIdle {name : String} (h : IsName name) : Path.isIdle name.toList = false := by
  have hempty : name.toList ≠ [] := by simpa using h.ne_empty
  have hdot : name.toList ≠ ".".toList := fun heq => h.ne_dot (String.toList_inj.mp heq)
  simpa [Path.isIdle, hempty] using hdot

/-- The parent of a place's path is the path of the place above it. -/
theorem parent?_toPath {last : String} (h : ∀ name ∈ here ++ [last], IsName name) :
    (Place.toPath (here ++ [last])).parent? = some here.toPath := by
  obtain ⟨hhere, hlast⟩ := List.forall_mem_append.mp h
  obtain ⟨body, hbody⟩ := exists_toList_toPath (here ++ [last])
  have hnamed : ∀ p ∈ here.map String.toList, Path.isIdle p = false := by
    intro p hp
    obtain ⟨name, hname, rfl⟩ := List.mem_map.mp hp
    exact (hhere name hname).not_isIdle
  have hwithout : Path.withoutLast? (Text.pieces '/' body) = some (here.map String.toList) := by
    rw [pieces_toPath (by simp) h hbody, List.map_append]
    exact Path.withoutLast?_append hnamed (hlast last (by simp)).not_isIdle
  have htext : String.ofList ('/' :: Text.joinPieces '/' (here.map String.toList)) =
      here.toPath.text := by
    by_cases hne : here = []
    · subst hne
      rfl
    · obtain ⟨above, habove⟩ := exists_toList_toPath here
      rw [← pieces_toPath hne hhere habove, Text.joinPieces_pieces, ← habove, String.ofList_toList]
  rw [Path.parent?, hbody]
  simp only [hwithout, Option.map_some, htext]

theorem toPath_text_ne (here : Place) : here.toPath.text ≠ "" := by
  obtain ⟨body, hbody⟩ := exists_toList_toPath here
  rintro hempty
  simp [hempty] at hbody

theorem hasNul_toPath (h : ∀ name ∈ here, IsName name) : hasNul here.toPath.text = false := by
  cases here with
  | nil => decide
  | cons name rest =>
    have hnul : ∀ p ∈ (name :: rest).map String.toList, '\x00' ∉ p := by
      intro p hp
      obtain ⟨other, hother, rfl⟩ := List.mem_map.mp hp
      exact (h other hother).no_nul
    rw [hasNul, toList_toPath (by simp), List.contains_eq_mem, decide_eq_false_iff_not,
      List.mem_flatMap]
    rintro ⟨p, hp, hmem⟩
    obtain hslash | hmem := List.mem_cons.mp hmem
    · exact absurd hslash (by decide)
    · exact hnul p hp hmem

/-- Names that lead on make a path that is not too long. -/
theorem Leads.fits {names : List String} (h : t.Leads here names)
    (hhere : here.toPath.text.utf8ByteSize ≤ pathLimit) :
    (Place.toPath (here ++ names)).text.utf8ByteSize ≤ pathLimit := by
  induction names generalizing here with
  | nil => rwa [List.append_nil]
  | cons name rest ih =>
    obtain ⟨-, -, hfits, -, hrest⟩ := h
    rw [← List.singleton_append, ← List.append_assoc]
    exact ih hrest hfits

/-- The search for the path of a place begins at the root and goes over its names. -/
theorem find_toPath (hne : here ≠ []) (h : ∀ name ∈ here, IsName name) (cwd : Place) :
    t.find cwd here.toPath = t.walk linkLimit [] here := by
  rw [find, if_neg (toPath_text_ne here), if_pos (isAbsolute_toPath here), split_toPath hne h,
    walk_empty isDirectoryAt_nil]

/-- A canonical place is found at its path. -/
theorem find_of_isCanonical (h : t.IsCanonical here) (cwd : Place) :
    t.find cwd here.toPath = .ok here := by
  by_cases hne : here = []
  · subst hne
    have hsplit : Text.split '/' (Place.toPath []).text = ["", ""] := by decide
    rw [find, if_neg (toPath_text_ne []), if_pos (isAbsolute_toPath []), hsplit,
      walk_empty isDirectoryAt_nil, walk_empty isDirectoryAt_nil, walk_nil]
  · have hwalk := walk_append h linkLimit []
    rw [List.append_nil, List.nil_append] at hwalk
    rw [find_toPath hne h.isName, hwalk, walk_nil]

/-- Nothing is found under a name that a canonical directory does not hold. -/
theorem find_of_missing (h : t.IsCanonical here) (hdir : t.isDirectoryAt here = true)
    {name : String} (hname : IsName name)
    (hfits : (here ++ [name]).toPath.text.utf8ByteSize ≤ pathLimit)
    (hentry : t.entry? (here ++ [name]) = none) (cwd : Place) :
    t.find cwd (here ++ [name]).toPath = .error .noSuchEntry := by
  have hnames : ∀ other ∈ here ++ [name], IsName other := by
    intro other hother
    obtain hother | hother := List.mem_append.mp hother
    · exact h.isName other hother
    · exact List.mem_singleton.mp hother ▸ hname
  have hwalk := walk_append h linkLimit [name]
  rw [List.nil_append] at hwalk
  rw [find_toPath (by simp) hnames, hwalk, (walk_name hdir hname hfits linkLimit []).2 hentry]

/-! ## The answers of a tree -/

/-- A canonical place is found at its path with what it holds. -/
theorem findEntry_of_isCanonical (h : t.IsCanonical here) {entry : Entry}
    (hentry : t.entry? here = some entry) (cwd : Place) :
    t.findEntry cwd here.toPath = .ok (here, entry) := by
  have hfits : here.toPath.text.utf8ByteSize ≤ pathLimit := h.fits (by decide)
  rw [findEntry, if_neg (Nat.not_lt.mpr hfits)]
  simp only [find_of_isCanonical h cwd, hentry]

/-- **A canonical place answers to its own path.** The path is canonical, and it leads to a regular
file or to a directory exactly if the place holds one. -/
theorem view_of_isCanonical (h : t.IsCanonical here) (cwd : Place) :
    (t.view cwd).canonicalize here.toPath = .ok here.toPath ∧
    (t.view cwd).isFile here.toPath = (t.entry? here).any (·.isRegular) ∧
    (t.view cwd).isDirectory here.toPath = (t.entry? here).any (·.isDirectory) := by
  obtain ⟨entry, hentry, -⟩ := h.exists_entry
  have hfind := findEntry_of_isCanonical h hentry cwd
  refine ⟨?canonicalize, ?file, ?directory⟩
  case canonicalize =>
    simp only [view, hasNul_toPath h.isName, Bool.false_eq_true, if_false,
      find_of_isCanonical h cwd]
  case file => simp [view, hfind, hentry, Except.toOption]
  case directory => simp [view, hfind, hentry, Except.toOption]

/-- A name that a canonical directory does not hold is no file. -/
theorem isFile_of_missing (h : t.IsCanonical here) (hdir : t.isDirectoryAt here = true)
    {name : String} (hname : IsName name)
    (hfits : (here ++ [name]).toPath.text.utf8ByteSize ≤ pathLimit)
    (hentry : t.entry? (here ++ [name]) = none) (cwd : Place) :
    (t.view cwd).isFile (here ++ [name]).toPath = false := by
  have hfind := find_of_missing h hdir hname hfits hentry cwd
  simp [view, findEntry, Nat.not_lt.mpr hfits, hfind, Except.toOption]

/-- The canonical path of a path is the path of the place that it leads to. -/
theorem canonicalize_eq_ok_iff {cwd : Place} {p q : Path} :
    (t.view cwd).canonicalize p = .ok q ↔
      hasNul p.text = false ∧ ∃ here, t.find cwd p = .ok here ∧ q = here.toPath := by
  cases hnul : hasNul p.text with
  | true => simp [view, hnul]
  | false =>
    cases hfind : t.find cwd p with
    | error e => simp [view, hnul, hfind]
    | ok here =>
      have hsymm : q = here.toPath ↔ here.toPath = q := eq_comm
      simp [view, hnul, hfind, hsymm]

/-- A path leads to a canonical place. -/
theorem isCanonical_of_find (hlinks : t.HasPathLinks) {cwd : Place} (hcwd : t.IsCanonical cwd)
    {p : Path} (hnul : hasNul p.text = false)
    (h : t.find cwd p = .ok here) : t.IsCanonical here := by
  rw [find] at h
  split at h
  · cases h
  · refine isCanonical_of_walk hlinks ?start ?segments h
    case start =>
      split
      · exact trivial
      · exact hcwd
    case segments => exact fun name hname => isSegment_of_mem_split hnul hname

/-- **What a tree answers for a path is the path of a canonical place**, and so the answer to
itself, whatever the working directory. -/
theorem exists_isCanonical_of_canonicalize (hlinks : t.HasPathLinks) {cwd : Place}
    (hcwd : t.IsCanonical cwd) {p q : Path} (h : (t.view cwd).canonicalize p = .ok q) :
    ∃ here, t.IsCanonical here ∧ q = here.toPath ∧ ∀ other,
      (t.view other).canonicalize q = .ok q := by
  obtain ⟨hnul, here, hfind, rfl⟩ := canonicalize_eq_ok_iff.mp h
  have hhere : t.IsCanonical here := isCanonical_of_find hlinks hcwd hnul hfind
  exact ⟨here, hhere, rfl, fun other => (view_of_isCanonical hhere other).1⟩

end FileTree

end CiHarness
