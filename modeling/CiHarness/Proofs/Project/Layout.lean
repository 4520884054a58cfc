import CiHarness.Project.Layout
import CiHarness.Proofs.Path

/-!
# Accepted layouts

What is known of a layout once it was accepted: the harness directory is the canonical path of the
place that was asked for, the project root is its parent, and the manifest lies there. No name is
asked of either directory.
-/
namespace CiHarness

/-- A file system that holds one harness directory and one manifest. -/
def FileView.ofProject (ciDir manifest : Path) : FileView where
  canonicalize p := if p = ciDir then .ok ciDir else .error (.system .noSuchEntry)
  isFile p := p = manifest
  isDirectory p := p = ciDir

namespace Layout

/-- A layout is made of an absolute path and its parent. -/
theorem ofCiDir_eq_ok_iff {ciDir : Path} {l : Layout} :
    ofCiDir ciDir = .ok l ↔
      ciDir.isAbsolute = true ∧ l.ciDir = ciDir ∧ ciDir.parent? = some l.projectRoot := by
  obtain ⟨root, dir⟩ := l
  rw [ofCiDir]
  split
  · next habs =>
    cases hparent : ciDir.parent? with
    | none => simp
    | some parent =>
      simp only [Except.ok.injEq, mk.injEq, habs, true_and, Option.some.injEq]
      exact ⟨fun ⟨hroot, hdir⟩ => ⟨hdir.symm, hroot⟩, fun ⟨hdir, hroot⟩ => ⟨hroot, hdir.symm⟩⟩
  · next habs => simp [habs]

/-- A layout is accepted if the place exists and its parent holds the manifest. -/
theorem resolve_eq_ok_iff {files : FileView} {ciDir : Path} {l : Layout} :
    resolve files ciDir = .ok l ↔
      files.canonicalize ciDir = .ok l.ciDir ∧ ofCiDir l.ciDir = .ok l ∧
      files.isFile l.manifest = true := by
  cases hcanonical : files.canonicalize ciDir with
  | error e => simp [resolve, hcanonical]
  | ok canonical =>
    cases hlayout : ofCiDir canonical with
    | error failure =>
      simp only [resolve, hcanonical, hlayout, reduceCtorEq, false_iff, not_and, Except.ok.injEq]
      rintro rfl hl
      rw [hlayout] at hl
      cases hl
    | ok layout =>
      have hdir : layout.ciDir = canonical := (ofCiDir_eq_ok_iff.mp hlayout).2.1
      simp only [resolve, hcanonical, hlayout, Except.ok.injEq]
      constructor
      · intro h
        split at h
        · next hfile =>
          obtain rfl := Except.ok.inj h
          exact ⟨hdir.symm, by rw [hdir, hlayout], hfile⟩
        · cases h
      · rintro ⟨rfl, hl, hfile⟩
        obtain rfl := Except.ok.inj (hlayout.symm.trans hl)
        rw [if_pos hfile]

theorem resolve_of_lookup_error {files : FileView} {asked : Path} {e : LookupError}
    (h : files.canonicalize asked = .error e) :
    resolve files asked = .error (.invalidPath asked (.lookup e)) := by
  simp only [resolve, h]

/-- A place with a parent is accepted or refused by the manifest of its parent alone. -/
theorem resolve_of_parent {files : FileView} {asked place parent : Path}
    (h : files.canonicalize asked = .ok place) (hparent : place.parent? = some parent) :
    resolve files asked =
      if files.isFile (parent.join manifestName) then .ok ⟨parent, place⟩
      else .error (.invalidPath place .noManifest) := by
  have habs : place.isAbsolute = true := Path.isAbsolute_of_parent?_eq_some hparent
  have hlayout : ofCiDir place = .ok ⟨parent, place⟩ := ofCiDir_eq_ok_iff.mpr ⟨habs, rfl, hparent⟩
  simp only [resolve, h, hlayout]
  rfl

theorem resolve_of_root {files : FileView} {asked : Path}
    (h : files.canonicalize asked = .ok ⟨"/"⟩) :
    resolve files asked = .error (.invalidPath ⟨"/"⟩ .noParent) := by
  have hlayout : ofCiDir ⟨"/"⟩ = .error (.invalidPath ⟨"/"⟩ .noParent) := by decide
  simp only [resolve, h, hlayout]

/-- An accepted harness directory is absolute, and the project root is its parent. -/
theorem parent?_ciDir {files : FileView} {ciDir : Path} {l : Layout}
    (h : resolve files ciDir = .ok l) :
    l.ciDir.isAbsolute = true ∧ l.ciDir.parent? = some l.projectRoot := by
  obtain ⟨-, hl, -⟩ := resolve_eq_ok_iff.mp h
  obtain ⟨habs, -, hparent⟩ := ofCiDir_eq_ok_iff.mp hl
  exact ⟨habs, hparent⟩

end Layout

end CiHarness
