import CiHarness.Proofs.Project.Nested
import CiHarness.Proofs.Project.Parent

/-!
# Spellings of a harness directory

A harness directory is looked up by its canonical path, so it does not matter how it was spelled:
absolute or from a working directory, with single or double dots, or by way of links. All that is
asked of the file system is that canonical paths are normal and are their own canonical paths; every
file tree answers in this way. The main statement is `resolve_canonical`.
-/
namespace CiHarness

namespace Path

/-- A path is normal if it is a slash alone, or names with one slash before each, none of which is
empty, a single dot or a double one. -/
def IsNormal (p : Path) : Prop :=
  p.text = "/" ∨ ∃ body, p.text.toList = '/' :: body ∧
    ∀ s ∈ Text.pieces '/' body, isIdle s = false ∧ s ≠ ['.', '.']

theorem IsNormal.isAbsolute {p : Path} (h : p.IsNormal) : p.isAbsolute = true := by
  obtain hroot | ⟨body, hbody, -⟩ := h
  · exact (isAbsolute_iff p).mpr ⟨[], by rw [hroot]; rfl⟩
  · exact (isAbsolute_iff p).mpr ⟨body, hbody⟩

/-- A normal path other than the root has a parent. -/
theorem IsNormal.exists_parent {p : Path} (h : p.IsNormal) (hne : p.text ≠ "/") :
    ∃ parent, p.parent? = some parent := by
  obtain ⟨body, hbody, hnames⟩ := h.resolve_left hne
  have hbodyNe : Text.pieces '/' body ≠ [] := Text.pieces_ne_nil body
  obtain ⟨name, rest, hpieces⟩ := List.exists_cons_of_ne_nil hbodyNe
  have hname : isIdle name = false := (hnames name (by simp [hpieces])).1
  have hnone : ¬ ∀ s ∈ p.segments, isIdle s = true := by
    intro hall
    have hidle : isIdle name = true := hall name (by simp [segments, hbody, hpieces])
    rw [hname] at hidle
    cases hidle
  rw [← parent?_eq_none_iff h.isAbsolute] at hnone
  exact Option.ne_none_iff_exists'.mp hnone

end Path

namespace FileView

/-- What is known of canonical paths: a place that is found has a normal one, which is found by
itself. So nothing in it is a link. -/
structure IsCanonicalizing (files : FileView) : Prop where
  normal : ∀ p q, files.canonicalize p = .ok q → q.IsNormal
  fixed : ∀ p q, files.canonicalize p = .ok q → files.canonicalize q = .ok q

/-- Two processes see the same files, maybe from different working directories, if absolute paths
are the same for both. -/
def SameFiles (files other : FileView) : Prop :=
  ∀ p : Path, p.isAbsolute = true → other.canonicalize p = files.canonicalize p ∧
    other.isFile p = files.isFile p ∧
    other.isDirectory p = files.isDirectory p

end FileView

namespace FileTree

variable {t : FileTree}

theorem isNormal_toPath {here : Place} (h : ∀ name ∈ here, IsName name) : here.toPath.IsNormal := by
  by_cases hne : here = []
  · subst hne
    exact .inl rfl
  · obtain ⟨body, hbody⟩ := exists_toList_toPath here
    refine .inr ⟨body, hbody, ?_⟩
    rw [pieces_toPath hne h hbody, List.forall_mem_map]
    intro name hname
    have hdots : name.toList ≠ "..".toList := fun heq =>
      (h name hname).ne_dots (String.toList_inj.mp heq)
    exact ⟨(h name hname).not_isIdle, hdots⟩

/-- Every file tree answers with canonical paths, from every working directory. -/
theorem isCanonicalizing_view (hlinks : t.HasPathLinks) {cwd : Place} (hcwd : t.IsCanonical cwd) :
    (t.view cwd).IsCanonicalizing := by
  constructor
  · intro p q h
    obtain ⟨here, hhere, rfl, -⟩ := exists_isCanonical_of_canonicalize hlinks hcwd h
    exact isNormal_toPath hhere.isName
  · intro p q h
    obtain ⟨-, -, -, hfixed⟩ := exists_isCanonical_of_canonicalize hlinks hcwd h
    exact hfixed cwd

/-- The working directory makes no difference to absolute paths. -/
theorem sameFiles_view (t : FileTree) (cwd other : Place) :
    (t.view cwd).SameFiles (t.view other) := by
  intro p hp
  have hfind : t.find other p = t.find cwd p := by simp only [find, hp, if_true]
  have hentry : t.findEntry other p = t.findEntry cwd p := by rw [findEntry, findEntry, hfind]
  exact ⟨by simp only [view, hfind], by simp only [view, hentry], by simp only [view, hentry]⟩

end FileTree

namespace Layout

variable {files : FileView} {asked : Path}

/-- A spelling is accepted with a layout exactly if it is one of the harness directory of that
layout, from whatever working directory. -/
theorem resolve_eq_ok_iff_of_sameFiles {other : FileView} {layout : Layout}
    (hlayout : resolve files asked = .ok layout) (hsame : files.SameFiles other) (spelling : Path) :
    resolve other spelling = .ok layout ↔ other.canonicalize spelling = .ok layout.ciDir := by
  obtain ⟨-, hdir, hmanifest⟩ := resolve_eq_ok_iff.mp hlayout
  have hroot : layout.projectRoot.isAbsolute = true :=
    Path.isAbsolute_of_parent? (parent?_ciDir hlayout).2
  obtain ⟨-, hfile, -⟩ := hsame layout.manifest (Path.isAbsolute_join hroot manifestName)
  rw [resolve_eq_ok_iff, hfile]
  exact and_iff_left ⟨hdir, hmanifest⟩

/-- **A harness directory is known by its canonical path.** A path is accepted exactly if it leads
to a place other than the root whose parent holds the manifest as a regular file, and then the
layout is made of the canonical path and its parent. A path that leads nowhere is reported as it was
given, and every later fault with the canonical path. So an accepted harness directory is accepted
again with the same layout, and so is every other spelling of it, from whatever working directory,
and no path that is none; each spelling gives the same setup, and with it the same jobs. -/
theorem resolve_canonical (h : files.IsCanonicalizing) (asked : Path) :
    (∀ layout, resolve files asked = .ok layout ↔
      files.canonicalize asked = .ok layout.ciDir ∧ layout.ciDir.text ≠ "/" ∧
        layout.ciDir.parent? = some layout.projectRoot ∧
          files.isFile (layout.projectRoot.join "Cargo.toml") = true) ∧
    (∀ e, files.canonicalize asked = .error e →
      resolve files asked = .error (.invalidPath asked (.lookup e))) ∧
    (∀ place failure, files.canonicalize asked = .ok place → resolve files asked = .error failure →
      failure = .invalidPath place (if place.text = "/" then .noParent else .noManifest)) ∧
    ∀ layout, resolve files asked = .ok layout →
      resolve files layout.ciDir = .ok layout ∧
      ∀ (other : FileView) (spelling : Path), files.SameFiles other →
        (resolve other spelling = .ok layout ↔ other.canonicalize spelling = .ok layout.ciDir) ∧
        (other.canonicalize spelling = .ok layout.ciDir →
          ∀ (identity : Identity) (runtime : Option String) (containerized : Bool), ∃ setup,
            Setup.resolve files identity asked runtime containerized = .ok setup ∧
            Setup.resolve other identity spelling runtime containerized = .ok setup) := by
  refine ⟨?accepted, fun e => resolve_of_lookup_error, ?refused, ?spellings⟩
  case accepted =>
    intro layout
    rw [resolve_eq_ok_iff, ofCiDir_eq_ok_iff, manifest]
    constructor
    · rintro ⟨hplace, ⟨-, -, hparent⟩, hfile⟩
      refine ⟨hplace, ?_, hparent, hfile⟩
      intro hroot
      have hdir : layout.ciDir = ⟨"/"⟩ := congrArg Path.mk hroot
      have hnone : Path.parent? ⟨"/"⟩ = none := by decide
      rw [hdir, hnone] at hparent
      cases hparent
    · rintro ⟨hplace, -, hparent, hfile⟩
      exact ⟨hplace, ⟨Path.isAbsolute_of_parent?_eq_some hparent, rfl, hparent⟩, hfile⟩
  case refused =>
    intro place failure hplace hfailure
    by_cases hroot : place.text = "/"
    · obtain rfl : place = ⟨"/"⟩ := congrArg Path.mk hroot
      rw [resolve_of_root hplace] at hfailure
      exact (Except.error.inj hfailure).symm
    · obtain ⟨parent, hparent⟩ := (h.normal asked place hplace).exists_parent hroot
      rw [resolve_of_parent hplace hparent] at hfailure
      split at hfailure
      · cases hfailure
      · rw [if_neg hroot]
        exact (Except.error.inj hfailure).symm
  case spellings =>
    intro layout hlayout
    have hplace : files.canonicalize asked = .ok layout.ciDir := (resolve_eq_ok_iff.mp hlayout).1
    have hself : files.SameFiles files := fun _ _ => ⟨rfl, rfl, rfl⟩
    refine ⟨(resolve_eq_ok_iff_of_sameFiles hlayout hself _).mpr
      (h.fixed asked layout.ciDir hplace), ?_⟩
    intro other spelling hsame
    have hspelling := resolve_eq_ok_iff_of_sameFiles hlayout hsame spelling
    refine ⟨hspelling, fun hother identity runtime containerized => ?_⟩
    exact ⟨_, Setup.resolve_of_layout hlayout identity runtime containerized,
      Setup.resolve_of_layout (hspelling.mpr hother) identity runtime containerized⟩

/-- A project, and a link to its harness directory. -/
def linkedProject : FileTree :=
  ⟨[(["proj"], .directory), (["proj", "Cargo.toml"], .ofText "[workspace]" false),
    (["proj", "ci"], .directory), (["shortcut"], .ofTarget "proj/ci")]⟩

/-- The link is followed up from within the project. -/
theorem find_shortcut : linkedProject.find ["proj"] ⟨"../shortcut"⟩ = .ok ["proj", "ci"] := by
  have hnames : Text.split '/' "../shortcut" = ["..", "shortcut"] := by decide
  have htarget : Text.split '/' "proj/ci" ++ [] = ["proj", "ci"] ++ [] := by decide
  have hleads : linkedProject.Leads [] ["proj", "ci"] := by decide
  have hlink : (linkedProject.entry? ([] ++ ["shortcut"])).map Entry.content =
      some (.link "proj/ci") := rfl
  rw [FileTree.find, if_neg (by decide), if_neg (by decide), hnames, FileTree.walk_up (by decide),
    List.dropLast_singleton, FileTree.linkLimit,
    FileTree.walk_link rfl (by decide) (by decide) hlink,
    if_neg (by decide), htarget, FileTree.walk_append hleads, FileTree.walk_nil]
  rfl

/-- The harness directory is found by way of the link, from within the project, and by its name from
above it. -/
theorem resolve_canonical_by_link :
    (linkedProject.view ["proj"]).IsCanonicalizing ∧
      resolve (linkedProject.view ["proj"]) ⟨"../shortcut"⟩ = .ok ⟨⟨"/proj"⟩, ⟨"/proj/ci"⟩⟩ ∧
      resolve (linkedProject.view ["proj"]) ⟨"/proj/ci"⟩ = .ok ⟨⟨"/proj"⟩, ⟨"/proj/ci"⟩⟩ ∧
      resolve (linkedProject.view []) ⟨"proj/ci"⟩ = .ok ⟨⟨"/proj"⟩, ⟨"/proj/ci"⟩⟩ := by
  have hlinks : linkedProject.HasPathLinks := by
    have htarget : FileTree.hasNul "proj/ci" = false := by decide
    exact FileTree.hasPathLinks_of_forall
      (by simp [linkedProject, Entry.directory, Entry.ofText, Entry.ofTarget, htarget])
  have hcwd : linkedProject.IsCanonical ["proj"] := by decide
  have hmanifest : linkedProject.IsCanonical ["proj", "Cargo.toml"] := by decide
  have hci : linkedProject.Leads [] ["proj", "ci"] := by decide
  have hcanonicalizing := FileTree.isCanonicalizing_view hlinks hcwd
  have hasked : (linkedProject.view ["proj"]).canonicalize ⟨"../shortcut"⟩ = .ok ⟨"/proj/ci"⟩ :=
    FileTree.canonicalize_eq_ok_iff.mpr ⟨by decide, _, find_shortcut, rfl⟩
  have hspelled : (linkedProject.view []).canonicalize ⟨"proj/ci"⟩ = .ok ⟨"/proj/ci"⟩ := by
    have hnames : Text.split '/' "proj/ci" = ["proj", "ci"] ++ [] := by decide
    refine FileTree.canonicalize_eq_ok_iff.mpr ⟨by decide, ["proj", "ci"], ?_, rfl⟩
    rw [FileTree.find, if_neg (by decide), if_neg (by decide), hnames, FileTree.walk_append hci,
      FileTree.walk_nil]
    rfl
  obtain ⟨-, hfile, -⟩ := FileTree.view_of_isCanonical hmanifest ["proj"]
  obtain ⟨haccepted, -, -, hspellings⟩ := resolve_canonical hcanonicalizing ⟨"../shortcut"⟩
  have hlayout := (haccepted ⟨⟨"/proj"⟩, ⟨"/proj/ci"⟩⟩).mpr ⟨hasked, by decide, by decide, hfile⟩
  obtain ⟨hagain, hothers⟩ := hspellings _ hlayout
  obtain ⟨hother, -⟩ := hothers _ ⟨"proj/ci"⟩ (FileTree.sameFiles_view linkedProject ["proj"] [])
  exact ⟨hcanonicalizing, hlayout, hagain, hother.mpr hspelled⟩

end Layout

end CiHarness
