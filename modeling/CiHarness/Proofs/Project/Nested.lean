import CiHarness.Proofs.Host.FileTree
import CiHarness.Proofs.Project.Layout
import CiHarness.Proofs.Step.Setup

/-!
# Projects within projects

A harness directory is accepted by what its parent holds, and what it holds itself is never looked
at. So the root of a project is refused as a harness directory as long as no manifest lies beside
it; the root of a project that lies directly within another one is taken for the harness directory
of the outer project. The main statement is `refused_iff_not_nested`.
-/
namespace CiHarness

namespace FileView

variable (files : FileView)

/-- The root of a project is a directory that holds a manifest. -/
def IsProjectRoot (p : Path) : Prop :=
  files.isDirectory p = true ∧ files.isFile (p.join manifestName) = true

/-- A place lies directly within a project if its parent holds a manifest. -/
def IsNested (p : Path) : Prop :=
  ∃ parent, p.parent? = some parent ∧ files.isFile (parent.join manifestName) = true

end FileView

/-- A project, another one directly within it, and the manifests of both. -/
def FileTree.twoProjects : FileTree :=
  ⟨[(["outer"], .directory), (["outer", "Cargo.toml"], .ofText "[workspace]" false),
    (["outer", "inner"], .directory),
      (["outer", "inner", "Cargo.toml"], .ofText "[package]" false)]⟩

namespace Layout

/-- A fault in the text of a harness directory is reported with that text. -/
theorem exists_fault_of_ofCiDir {ciDir : Path} {failure : Failure}
    (h : ofCiDir ciDir = .error failure) :
    ∃ fault, failure = .invalidPath ciDir fault := by
  rw [ofCiDir] at h
  split at h
  · split at h
    · cases h
    · exact ⟨_, (Except.error.inj h).symm⟩
  · exact ⟨_, (Except.error.inj h).symm⟩

theorem isNested_iff {files : FileView} {place : Path} {layout : Layout}
    (h : ofCiDir place = .ok layout) :
    files.IsNested place ↔ files.isFile layout.manifest = true := by
  obtain ⟨-, -, hparent⟩ := ofCiDir_eq_ok_iff.mp h
  simp [FileView.IsNested, hparent, manifest]

/-- A place that lies directly within a project is accepted, whatever it holds. -/
theorem resolve_of_nested {files : FileView} {asked place parent : Path}
    (h : files.canonicalize asked = .ok place) (hparent : place.parent? = some parent)
    (hmanifest : files.isFile (parent.join manifestName) = true) :
    resolve files asked = .ok ⟨parent, place⟩ := by
  rw [resolve_of_parent h hparent, if_pos hmanifest]

/-- Every other place is refused under its own path, whatever it holds. -/
theorem resolve_of_not_nested {files : FileView} {asked place : Path}
    (h : files.canonicalize asked = .ok place) (hnested : ¬ files.IsNested place) :
    ∃ fault, resolve files asked = .error (.invalidPath place fault) := by
  cases hlayout : ofCiDir place with
  | error failure =>
    obtain ⟨fault, rfl⟩ := exists_fault_of_ofCiDir hlayout
    exact ⟨fault, by simp only [resolve, h, hlayout]⟩
  | ok layout =>
    have hdir : layout.ciDir = place := (ofCiDir_eq_ok_iff.mp hlayout).2.1
    rw [isNested_iff hlayout] at hnested
    exact ⟨.noManifest, by simp only [resolve, h, hlayout, if_neg hnested, hdir]⟩

/-- Two file systems that agree on a place and on the manifest beside it accept and refuse it
alike. -/
theorem resolve_congr {files other : FileView} {asked place : Path}
    (h : files.canonicalize asked = .ok place) (hother : other.canonicalize asked = .ok place)
    (hnested : other.IsNested place ↔ files.IsNested place) :
    resolve other asked = resolve files asked := by
  cases hlayout : ofCiDir place with
  | error failure => simp only [resolve, h, hother, hlayout]
  | ok layout =>
    rw [isNested_iff hlayout, isNested_iff hlayout] at hnested
    have hmanifest : other.isFile layout.manifest = files.isFile layout.manifest :=
      Bool.eq_iff_iff.mpr hnested
    simp only [resolve, h, hother, hlayout, hmanifest]

end Layout

namespace Setup

variable {files : FileView} {asked place : Path}

/-- A setup on an accepted layout mounts its two directories. -/
theorem resolve_of_layout {layout : Layout} (h : Layout.resolve files asked = .ok layout)
    (identity : Identity) (runtime : Option String) (containerized : Bool) :
    resolve files identity asked runtime containerized =
      .ok (ofLayout identity layout (runtime.getD defaultRuntime) containerized) := by
  obtain ⟨habs, hparent⟩ := Layout.parent?_ciDir h
  have hroot : layout.projectRoot.isAbsolute = true := Path.isAbsolute_of_parent? hparent
  rw [resolve, h]
  simp only [build_eq, hroot, habs, if_true]

theorem resolve_of_layout_error {failure : Failure}
    (h : Layout.resolve files asked = .error failure) (identity : Identity)
    (runtime : Option String) (containerized : Bool) :
    resolve files identity asked runtime containerized = .error failure := by
  rw [resolve, h]

/-- **A place is refused as a harness directory exactly if it does not lie directly within a
project.** This is so for every place that a path leads to, also for the root of a project, and
whether a layout or a whole setup is asked for; what else the file system holds makes no difference.
If the place does lie within a project, then its parent is mounted as the project root and it is
itself mounted as the harness directory. -/
theorem refused_iff_not_nested (h : files.canonicalize asked = .ok place) :
    ((∃ fault, Layout.resolve files asked = .error (.invalidPath place fault)) ↔
      ¬ files.IsNested place) ∧
    (∀ other : FileView, other.canonicalize asked = .ok place →
      (other.IsNested place ↔ files.IsNested place) →
      Layout.resolve other asked = Layout.resolve files asked) ∧
    ∀ (identity : Identity) (runtime : Option String) (containerized : Bool),
      ((∃ fault, resolve files identity asked runtime containerized =
        .error (.invalidPath place fault)) ↔
        ¬ files.IsNested place) ∧
      (files.IsNested place → ∃ setup parent,
        resolve files identity asked runtime containerized = .ok setup ∧
        place.parent? = some parent ∧
        setup.toolchain.mount = ⟨parent, Profile.toolchainWorkdir⟩ ∧
        setup.eda.mount = ⟨place, Profile.edaWorkdir⟩) := by
  refine ⟨⟨?layout, Layout.resolve_of_not_nested h⟩, fun other => Layout.resolve_congr h, ?setup⟩
  case layout =>
    rintro ⟨fault, hrefused⟩ ⟨parent, hparent, hmanifest⟩
    rw [Layout.resolve_of_nested h hparent hmanifest] at hrefused
    cases hrefused
  case setup =>
    intro identity runtime containerized
    have haccepted : files.IsNested place → ∃ setup parent,
        resolve files identity asked runtime containerized = .ok setup ∧
        place.parent? = some parent ∧
        setup.toolchain.mount = ⟨parent, Profile.toolchainWorkdir⟩ ∧
        setup.eda.mount = ⟨place, Profile.edaWorkdir⟩ := by
      rintro ⟨parent, hparent, hmanifest⟩
      have hlayout := Layout.resolve_of_nested h hparent hmanifest
      exact ⟨_, parent, resolve_of_layout hlayout identity runtime containerized, hparent, rfl, rfl⟩
    refine ⟨⟨?refused, ?notNested⟩, haccepted⟩
    case refused =>
      rintro ⟨fault, hrefused⟩ hnested
      obtain ⟨setup, -, hsetup, -⟩ := haccepted hnested
      rw [hsetup] at hrefused
      cases hrefused
    case notNested =>
      intro hnested
      obtain ⟨fault, hlayout⟩ := Layout.resolve_of_not_nested h hnested
      exact ⟨fault, resolve_of_layout_error hlayout identity runtime containerized⟩

/-- The root of the outer project lies within no other one, and is refused. -/
theorem refused_iff_not_nested_outer :
    (FileTree.twoProjects.view []).canonicalize ⟨"/outer"⟩ = .ok ⟨"/outer"⟩ ∧
      (FileTree.twoProjects.view []).IsProjectRoot ⟨"/outer"⟩ ∧
      ∃ fault, Layout.resolve (FileTree.twoProjects.view []) ⟨"/outer"⟩ =
        .error (.invalidPath ⟨"/outer"⟩ fault) := by
  have hroot : FileTree.twoProjects.IsCanonical [] := by decide
  have houter : FileTree.twoProjects.IsCanonical ["outer"] := by decide
  have hmanifest : FileTree.twoProjects.IsCanonical ["outer", "Cargo.toml"] := by decide
  obtain ⟨hasked, -, hdir⟩ := FileTree.view_of_isCanonical houter []
  obtain ⟨-, hfile, -⟩ := FileTree.view_of_isCanonical hmanifest []
  have hmissing : (FileTree.twoProjects.view []).isFile (Place.toPath ["Cargo.toml"]) = false :=
    FileTree.isFile_of_missing hroot (by decide) (by decide) (by decide) (by decide) []
  have hparent : Path.parent? (Place.toPath ["outer"]) = some ⟨"/"⟩ := by decide
  have hpath : Path.join ⟨"/"⟩ manifestName = Place.toPath ["Cargo.toml"] := by decide
  have hnested : ¬ (FileTree.twoProjects.view []).IsNested (Place.toPath ["outer"]) := by
    simp [FileView.IsNested, hparent, hpath, hmissing]
  obtain ⟨⟨-, hrefused⟩, -, -⟩ := refused_iff_not_nested hasked
  exact ⟨hasked, ⟨hdir, hfile⟩, hrefused hnested⟩

/-- The root of the inner project is accepted, and the root of the outer one is mounted for the
builds. -/
theorem nested_project_root_accepted :
    (FileTree.twoProjects.view []).canonicalize ⟨"/outer/inner"⟩ = .ok ⟨"/outer/inner"⟩ ∧
      (FileTree.twoProjects.view []).IsProjectRoot ⟨"/outer/inner"⟩ ∧
      Layout.resolve (FileTree.twoProjects.view []) ⟨"/outer/inner"⟩ =
        .ok ⟨⟨"/outer"⟩, ⟨"/outer/inner"⟩⟩ ∧
      ∃ setup, resolve (FileTree.twoProjects.view []) ⟨1000, 1000⟩ ⟨"/outer/inner"⟩ none true =
        .ok setup ∧
        setup.toolchain.mount = ⟨⟨"/outer"⟩, "/usr/src/myapp"⟩ := by
  have hinner : FileTree.twoProjects.IsCanonical ["outer", "inner"] := by decide
  have hmanifest : FileTree.twoProjects.IsCanonical ["outer", "inner", "Cargo.toml"] := by decide
  have hbeside : FileTree.twoProjects.IsCanonical ["outer", "Cargo.toml"] := by decide
  obtain ⟨hasked, -, hdir⟩ := FileTree.view_of_isCanonical hinner []
  obtain ⟨-, hfile, -⟩ := FileTree.view_of_isCanonical hmanifest []
  obtain ⟨-, hnested, -⟩ := FileTree.view_of_isCanonical hbeside []
  have hparent : Path.parent? (Place.toPath ["outer", "inner"]) = some ⟨"/outer"⟩ := by decide
  have hlayout := Layout.resolve_of_nested hasked hparent hnested
  exact ⟨hasked, ⟨hdir, hfile⟩, hlayout, _, resolve_of_layout hlayout ⟨1000, 1000⟩ none true, rfl⟩

end Setup

end CiHarness
