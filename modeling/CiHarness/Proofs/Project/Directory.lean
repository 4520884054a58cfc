import CiHarness.Host.Machine
import CiHarness.Proofs.Host.FileTree
import CiHarness.Proofs.Project.Nested
import CiHarness.Proofs.Run.Process

/-!
# Harness directories that are none

A harness directory is accepted for the place where it lies, and nobody asks whether it is a
directory. The project root above it always is one, since the way to the harness directory leads
through it; the harness directory is one exactly if the path that was asked for leads to one. Where
it leads to a file, every simulation is set up and none can be started. The main statement is
`accepted_isDirectory_iff`.
-/
namespace CiHarness

/-- A machine with a project, its manifest, and anything at the place of the harness directory. -/
def Machine.ofProject (ci : Entry) : Machine :=
  ⟨⟨[(["proj"], .directory), (["proj", "Cargo.toml"], .ofText "[workspace]" false),
    (["proj", "ci"], ci)]⟩, [], [], ⟨1000, 1000⟩, 0⟩

namespace Layout

/-- An accepted layout is that of a canonical place, with the place above it as the project root. -/
theorem exists_place_of_resolve {t : FileTree} (hlinks : t.HasPathLinks) {cwd : Place}
    (hcwd : t.IsCanonical cwd) {asked : Path} {layout : Layout}
    (h : resolve (t.view cwd) asked = .ok layout) :
    ∃ (above : Place) (last : String), t.find cwd asked = .ok (above ++ [last]) ∧
      t.IsCanonical (above ++ [last]) ∧
      layout = ⟨above.toPath, Place.toPath (above ++ [last])⟩ := by
  obtain ⟨hcanonical, -, -⟩ := resolve_eq_ok_iff.mp h
  obtain ⟨-, hparent⟩ := parent?_ciDir h
  obtain ⟨hnul, here, hfind, hdir⟩ := FileTree.canonicalize_eq_ok_iff.mp hcanonical
  have hhere : t.IsCanonical here := FileTree.isCanonical_of_find hlinks hcwd hnul hfind
  obtain ⟨root, ciDir⟩ := layout
  obtain rfl : ciDir = here.toPath := hdir
  cases here using List.reverseRecOn with
  | nil =>
    -- The root of the tree has no parent, so it is never accepted.
    have hnone : (Place.toPath []).parent? = none := by decide
    rw [hnone] at hparent
    cases hparent
  | append_singleton above last =>
    obtain rfl : Place.toPath above = root := by
      rw [FileTree.parent?_toPath hhere.isName] at hparent
      exact Option.some.inj hparent
    exact ⟨above, last, hfind, hhere, rfl⟩

end Layout

namespace Machine

variable {m : Machine}

/-- No job is started from a place that is no directory. -/
theorem not_started_of_not_isDirectory {job : Job} (hne : job.command.isEmpty = false)
    {here : Place} {entry : Entry} (h : m.files.findEntry m.cwd job.dir = .ok (here, entry))
    (hdir : entry.isDirectory = false) :
    ∃ error, (launcher.runJob job m).value = .error (.notStarted job.name error) := by
  have hdirOf : job.call.dir = job.dir := rfl
  obtain ⟨error, hstart⟩ : ∃ error, start job.call m = (.error error, m) := by
    rw [start]
    split
    · exact ⟨_, rfl⟩
    · simp only [hdirOf, h, hdir, Bool.false_eq_true, if_false]
      exact ⟨_, rfl⟩
  exact ⟨error, Launcher.value_runJob_of_start_error _ hne hstart⟩

/-- **An accepted harness directory is a directory exactly if the path that was asked for leads to
one.** It always exists, and its parent is the project root, which exists and is a directory. What
the path leads to is what every simulation is to be started from and what the simulator mounts; if
that is no directory, then no simulation can be started on the host or in a container. -/
theorem accepted_isDirectory_iff (hlinks : m.files.HasPathLinks) (hcwd : m.files.IsCanonical m.cwd)
    {asked : Path} {layout : Layout} (h : Layout.resolve (m.files.view m.cwd) asked = .ok layout) :
    let files := m.files.view m.cwd
    files.canonicalize layout.projectRoot = .ok layout.projectRoot ∧
    files.isDirectory layout.projectRoot = true ∧
    files.canonicalize layout.ciDir = .ok layout.ciDir ∧
    layout.ciDir.parent? = some layout.projectRoot ∧
    ∃ here entry, m.files.find m.cwd asked = .ok here ∧ m.files.entry? here = some entry ∧
      layout.ciDir = here.toPath ∧
      (files.isDirectory layout.ciDir = true ↔ entry.isDirectory = true) ∧
      (files.isFile layout.ciDir = true ↔ entry.isRegular = true) ∧
      ∀ (runtime : Option String) (containerized : Bool), ∃ setup,
        m.setup asked runtime containerized = .ok setup ∧
        setup.directory .eda = layout.ciDir ∧ setup.eda.mount.host = layout.ciDir ∧
        (entry.isDirectory = false → ∀ s, ∃ error,
          (launcher.runJob (Job.ofStep setup (.simulate s)) m).value =
            .error (.notStarted (Step.simulate s).name error)) := by
  intro files
  have hparent := (Layout.parent?_ciDir h).2
  have hsetup := Setup.resolve_of_layout h m.identity
  obtain ⟨above, last, hfind, hhere, rfl⟩ := Layout.exists_place_of_resolve hlinks hcwd h
  obtain ⟨habove, hroot, -⟩ := FileTree.isCanonical_concat_iff.mp hhere
  obtain ⟨entry, hentry, -⟩ := hhere.exists_entry
  obtain ⟨hrootPath, -, hrootDir⟩ := FileTree.view_of_isCanonical habove m.cwd
  obtain ⟨hdirPath, hdirFile, hdirDir⟩ := FileTree.view_of_isCanonical hhere m.cwd
  rw [hentry, Option.any_some] at hdirFile hdirDir
  refine ⟨hrootPath, hrootDir.trans hroot, hdirPath, hparent, above ++ [last], entry, hfind, hentry,
    rfl, ?_, ?_, ?_⟩
  · exact iff_of_eq (congrArg (· = true) hdirDir)
  · exact iff_of_eq (congrArg (· = true) hdirFile)
  · intro runtime containerized
    refine ⟨_, hsetup runtime containerized, rfl, rfl, fun hdir s => ?_⟩
    have hfound := FileTree.findEntry_of_isCanonical hhere hentry m.cwd
    exact not_started_of_not_isDirectory (Job.isEmpty_command_ofStep _ _) hfound hdir

/-- A place `ci` beside the manifest is accepted, whatever it holds. -/
theorem resolve_ofProject {ci : Entry} (hci : (ofProject ci).files.IsCanonical ["proj", "ci"])
    (hmanifest : (ofProject ci).files.IsCanonical ["proj", "Cargo.toml"]) :
    Layout.resolve ((ofProject ci).files.view []) ⟨"/proj/ci"⟩ = .ok ⟨⟨"/proj"⟩, ⟨"/proj/ci"⟩⟩ := by
  obtain ⟨hasked, -, -⟩ := FileTree.view_of_isCanonical hci []
  obtain ⟨-, hfile, -⟩ := FileTree.view_of_isCanonical hmanifest []
  have hparent : Path.parent? (Place.toPath ["proj", "ci"]) = some ⟨"/proj"⟩ := by decide
  exact Layout.resolve_of_nested hasked hparent hfile

/-- A directory `ci` beside the manifest is accepted as one, below a project root that is one
too. -/
theorem accepted_isDirectory_iff_of_directory :
    let m := ofProject .directory
    m.files.HasPathLinks ∧ m.files.IsCanonical m.cwd ∧
      Layout.resolve (m.files.view m.cwd) ⟨"/proj/ci"⟩ = .ok ⟨⟨"/proj"⟩, ⟨"/proj/ci"⟩⟩ ∧
      (m.files.view m.cwd).isDirectory ⟨"/proj"⟩ = true ∧
      (m.files.view m.cwd).isDirectory ⟨"/proj/ci"⟩ = true := by
  intro m
  have hlinks : m.files.HasPathLinks :=
    FileTree.hasPathLinks_of_forall (by simp [m, ofProject, Entry.directory, Entry.ofText])
  have hci : m.files.IsCanonical ["proj", "ci"] := by decide
  have hresolve := resolve_ofProject hci (by decide)
  obtain ⟨-, hroot, -, -, here, entry, hfind, hentry, -, hdir, -⟩ :=
    accepted_isDirectory_iff hlinks trivial hresolve
  obtain rfl : ["proj", "ci"] = here :=
    Except.ok.inj ((FileTree.find_of_isCanonical hci []).symm.trans hfind)
  obtain rfl : Entry.directory = entry := Option.some.inj hentry
  exact ⟨hlinks, trivial, hresolve, hroot, hdir.mpr rfl⟩

/-- A file `ci` beside the manifest is accepted as well, and is no directory. -/
theorem file_accepted_as_harness_directory :
    let files := (ofProject (.ofText "" false)).files.view []
    Layout.resolve files ⟨"/proj/ci"⟩ = .ok ⟨⟨"/proj"⟩, ⟨"/proj/ci"⟩⟩ ∧
      files.isDirectory ⟨"/proj/ci"⟩ = false ∧ files.isFile ⟨"/proj/ci"⟩ = true := by
  have hci : (ofProject (.ofText "" false)).files.IsCanonical ["proj", "ci"] := by decide
  obtain ⟨-, hfile, hdir⟩ := FileTree.view_of_isCanonical hci []
  exact ⟨resolve_ofProject hci (by decide), hdir, hfile⟩

end Machine

end CiHarness
