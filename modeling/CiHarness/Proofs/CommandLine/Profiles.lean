import CiHarness.Proofs.CommandLine.Refusal
import CiHarness.Proofs.Container.Profile
import CiHarness.Proofs.Project.Nested
import CiHarness.Proofs.Run.Attribution
import CiHarness.Proofs.Step.Container

/-!
# Profiles of a setup

A setup is made with both of its profiles, and can be made exactly if the two directories that they
mount are absolute; if not, the profile that is looked at first is complained about. The directories
of an accepted layout are absolute, so no setup is ever refused for its profiles, and whatever the
command line complains about, it is not a profile. The main statement is `build_iff_absolute`.
-/
namespace CiHarness

variable {σ : Type}

namespace Layout

variable {files : FileView} {asked : Path} {layout : Layout}

theorem isAbsolute_of_ofCiDir {ciDir : Path} (h : ofCiDir ciDir = .ok layout) :
    layout.projectRoot.isAbsolute = true ∧ layout.ciDir.isAbsolute = true := by
  obtain ⟨habs, rfl, hparent⟩ := ofCiDir_eq_ok_iff.mp h
  exact ⟨Path.isAbsolute_of_parent? hparent, habs⟩

/-- A layout is refused for a path. -/
theorem exists_path_of_resolve {failure : Failure} (h : resolve files asked = .error failure) :
    ∃ path fault, failure = .invalidPath path fault := by
  cases hplace : files.canonicalize asked with
  | error e =>
    rw [resolve_of_lookup_error hplace] at h
    exact ⟨_, _, (Except.error.inj h).symm⟩
  | ok place =>
    by_cases hnested : files.IsNested place
    · obtain ⟨parent, hparent, hmanifest⟩ := hnested
      rw [resolve_of_nested hplace hparent hmanifest] at h
      cases h
    · obtain ⟨fault, hrefused⟩ := resolve_of_not_nested hplace hnested
      rw [hrefused] at h
      exact ⟨_, _, (Except.error.inj h).symm⟩

end Layout

namespace Setup

/-- A setup that is looked up is refused for a path as well, and never for a profile. -/
theorem exists_path_of_resolve {files : FileView} {identity : Identity} {asked : Path}
    {runtime : Option String} {containerized : Bool} {failure : Failure}
    (h : resolve files identity asked runtime containerized = .error failure) :
    ∃ path fault, failure = .invalidPath path fault := by
  cases hlayout : Layout.resolve files asked with
  | error other =>
    rw [resolve_of_layout_error hlayout] at h
    obtain rfl := Except.error.inj h
    exact Layout.exists_path_of_resolve hlayout
  | ok layout =>
    rw [resolve_of_layout hlayout] at h
    cases h

theorem kind_profile_ofLayout (identity : Identity) (layout : Layout) (runtime : String)
    (containerized : Bool) (kind : ProfileKind) :
    ((ofLayout identity layout runtime containerized).profile kind).kind = kind := by
  cases kind <;> rfl

/-- The profiles of a setup on absolute directories are valid. -/
theorem valid_profile_ofLayout (identity : Identity) {layout : Layout} (runtime : String)
    (containerized : Bool) (hroot : layout.projectRoot.isAbsolute = true)
    (hdir : layout.ciDir.isAbsolute = true) (kind : ProfileKind) :
    ((ofLayout identity layout runtime containerized).profile kind).Valid := by
  cases kind with
  | toolchain =>
    have hmade : (Profile.Origin.toolchain layout).Yields
        (Profile.toolchainOn layout.projectRoot) := by
      rw [Profile.Origin.Yields, Profile.toolchain_eq, if_pos hroot]
    exact hmade.valid (by simp)
  | eda =>
    have hmade : (Profile.Origin.eda layout).Yields (Profile.edaOn layout.ciDir) := by
      rw [Profile.Origin.Yields, Profile.eda_eq, if_pos hdir]
    exact hmade.valid (by simp)

end Setup

namespace CommandLine

namespace Complaint

/-- The failure that a complaint is about; a run of several steps is complained about by a count
alone. -/
def failure? : Complaint → Option Failure
  | .environment failure => some failure
  | .selection failure => some failure
  | .step _ failure => some failure
  | .steps _ => none

/-- All that is ever complained about: a path, a name, a failure that belongs to a step, or a number
of steps. -/
inductive Arises : Complaint → Prop
  | environment (path : Path) (fault : LayoutFault) :
      Arises (.environment (.invalidPath path fault))
  | selection (name : String) : Arises (.selection (.unknownStep name))
  | step (name : String) (failure : Failure) (h : failure.step? = some name) : Arises
    (.step name failure)
  | steps (count : Nat) : Arises (.steps count)

/-- A profile is not among that. -/
theorem Arises.ne_invalidProfile {complaint : Complaint} (h : complaint.Arises) (profile : String)
    (fault : ProfileFault) : complaint.failure? ≠ some (.invalidProfile profile fault) := by
  cases h with
  | step name failure hstep =>
    intro hfailure
    obtain rfl := Option.some.inj hfailure
    cases hstep
  | _ => simp [failure?]

end Complaint

namespace Workplace

/-! ## What is complained about -/

variable {w : Workplace σ} {setup : Setup} {s : σ} {complaint : Complaint}

/-- A run of known steps is complained about for a number of them. -/
theorem arises_of_performRun {only : List String} {report : Bool}
    (hknown : ∀ name ∈ only, Step.IsName name)
    (h : (w.performRun setup only report s).value = some complaint) : complaint.Arises := by
  rw [w.performRun_of_isName setup report s hknown] at h
  obtain ⟨-, rfl⟩ : _ ∧ Complaint.steps _ = complaint := by simpa using h
  exact .steps _

/-- A step that is run alone is complained about for what its job came to. -/
theorem arises_of_performStep {name : String} {step : Step} (hstep : Step.ofName name = .ok step)
    (h : (w.performStep setup name s).value = some complaint) : complaint.Arises := by
  simp only [performStep, Job.ofName_of_ofName setup hstep, w.launcher.value_runJob] at h
  cases hresult : (Job.ofStep setup step).result (w.launcher.reply? s (Job.ofStep setup step)) with
  | ok outcome => simp [hresult] at h
  | error failure =>
    simp only [hresult, Option.some.injEq] at h
    rw [← h]
    exact .step _ _ (Job.step?_of_result hresult)

/-- In a setup, a task is complained about for a name, and if all its names are known, for what its
jobs came to. -/
theorem arises_of_performIn {task : Task} (h : (w.performIn setup task s).value = some complaint) :
    complaint.Arises := by
  by_cases hknown : ∀ name ∈ task.names, Step.IsName name
  · cases task with
    | run only report => exact arises_of_performRun hknown h
    | step name =>
      obtain ⟨step, hstep⟩ := hknown name List.mem_cons_self
      exact arises_of_performStep hstep h
    | list => cases h
    | preview name =>
      obtain ⟨step, hstep⟩ := hknown name List.mem_cons_self
      simp [performIn, performPreview, Job.ofName_of_ofName setup hstep] at h
  · obtain ⟨before, name, after, htask, hbefore, hname⟩ :=
      Step.exists_first_unknown (by simpa using hknown)
    rw [w.performIn_of_unknown s setup htask hbefore hname] at h
    obtain rfl := Option.some.inj h
    exact .selection name

/-- A setup that fails is complained about for a path. -/
theorem arises_of_perform {i : Invocation}
    (h : (w.perform i s).value = some complaint) : complaint.Arises := by
  by_cases hlist : i.task = .list
  · rw [perform, hlist] at h
    cases h
  · cases hsetup : w.setup i with
    | error failure =>
      obtain ⟨path, fault, rfl⟩ := Setup.exists_path_of_resolve hsetup
      rw [w.perform_of_setup_error s hlist hsetup] at h
      obtain rfl := Option.some.inj h
      exact .environment path fault
    | ok setup =>
      rw [w.perform_of_setup_ok s hlist hsetup] at h
      exact arises_of_performIn h

theorem arises_of_respond {env : Environment} {args : List String}
    (h : (w.respond env args s).conclusion = .failed complaint) : complaint.Arises := by
  cases hread : Invocation.ofArguments env args with
  | error stop =>
    rw [respond, hread] at h
    cases stop <;> cases h
  | ok i =>
    cases hfilter : i.logFilter? env with
    | none =>
      rw [w.respond_of_fatal s hread hfilter] at h
      cases h
    | some filter =>
      rw [w.respond_of_filter s hread hfilter] at h
      cases hvalue : (w.perform i s).value with
      | none => simp [hvalue, Conclusion.ofComplaint] at h
      | some other =>
        obtain rfl : other = complaint := by simpa [hvalue, Conclusion.ofComplaint] using h
        exact arises_of_perform hvalue

end Workplace

end CommandLine

namespace Setup

open CommandLine

/-- **A setup can be made exactly on absolute directories, and then its profiles are valid.** Where
the project root is not absolute, the toolchain profile is refused, whatever the other directory is;
where only the harness directory is not, the simulator profile is. A setup that is made keeps what
it was made of, and both of its profiles are of their kind, are valid, pass the check unchanged and
mount the directory of their kind. A layout that is made from a harness directory, or looked up for
one, is never refused; so looking up a setup does not fail for a profile, no job does, and no
command line whatever is answered by a complaint about one. -/
theorem build_iff_absolute (identity : Identity) (layout : Layout) (runtime : String)
    (containerized : Bool) :
    let made := build identity layout runtime containerized
    let rootAbsolute := layout.projectRoot.text.toList.head? = some '/'
    let dirAbsolute := layout.ciDir.text.toList.head? = some '/'
    ((∃ setup, made = .ok setup) ↔ rootAbsolute ∧ dirAbsolute) ∧
    (¬ rootAbsolute → made = .error (.invalidProfile "toolchain" .relativeMountSource)) ∧
    (rootAbsolute → ¬ dirAbsolute → made = .error (.invalidProfile "eda" .relativeMountSource)) ∧
    (∀ setup, made = .ok setup →
      setup.identity = identity ∧ setup.layout = layout ∧ setup.runtime = runtime ∧
      setup.containerized = containerized ∧
      (∀ kind, (setup.profile kind).kind = kind ∧ (setup.profile kind).Valid ∧
        Profile.checked (setup.profile kind) = .ok (setup.profile kind)) ∧
      (setup.profile .toolchain).mount.host = layout.projectRoot ∧
      (setup.profile .eda).mount.host = layout.ciDir) ∧
    (∀ ciDir, Layout.ofCiDir ciDir = .ok layout → ∃ setup, made = .ok setup) ∧
    (∀ files asked, Layout.resolve files asked = .ok layout → ∃ setup, made = .ok setup) ∧
    ∀ profile fault,
      (∀ files asked given, resolve files identity asked given containerized ≠ .error
        (.invalidProfile profile fault)) ∧
      ∀ {σ : Type},
        (∀ (l : Launcher σ) job s,
          (l.runJob job s).value ≠ .error (.invalidProfile profile fault)) ∧
        ∀ (w : Workplace σ) env args s complaint,
          (w.respond env args s).conclusion = .failed complaint →
          complaint.failure? ≠ some (.invalidProfile profile fault) := by
  intro made rootAbsolute dirAbsolute
  have hroot : layout.projectRoot.isAbsolute = true ↔ rootAbsolute := Path.isAbsolute_iff_head? _
  have hdir : layout.ciDir.isAbsolute = true ↔ dirAbsolute := Path.isAbsolute_iff_head? _
  have hmade := build_eq identity layout runtime containerized
  have hiff : (∃ setup, made = .ok setup) ↔ rootAbsolute ∧ dirAbsolute := by
    simp only [made, build_eq_ok_iff, exists_and_left, exists_eq, and_true, hroot, hdir]
  have hofCiDir : ∀ ciDir, Layout.ofCiDir ciDir = .ok layout → ∃ setup, made = .ok setup := by
    intro ciDir hlayout
    obtain ⟨hrootAbs, hdirAbs⟩ := Layout.isAbsolute_of_ofCiDir hlayout
    exact hiff.mpr ⟨hroot.mp hrootAbs, hdir.mp hdirAbs⟩
  refine ⟨hiff, ?toolchain, ?eda, ?made, hofCiDir, ?resolved, fun profile fault =>
    ⟨?setup, ?job, ?answer⟩⟩
  case toolchain => exact fun hrelative => hmade.trans (if_neg (mt hroot.mp hrelative))
  case eda =>
    intro habsolute hrelative
    rw [if_pos (hroot.mpr habsolute), if_neg (mt hdir.mp hrelative)] at hmade
    exact hmade
  case made =>
    intro setup hsetup
    obtain ⟨hrootAbs, hdirAbs, rfl⟩ := (build_eq_ok_iff identity layout runtime).mp hsetup
    refine ⟨rfl, rfl, rfl, rfl, fun kind => ?_, rfl, rfl⟩
    have hvalid := valid_profile_ofLayout identity runtime containerized hrootAbs hdirAbs kind
    exact ⟨kind_profile_ofLayout identity layout runtime containerized kind, hvalid,
      Profile.checked_eq_ok_iff.mpr ⟨rfl, hvalid⟩⟩
  case resolved =>
    intro files asked hresolved
    obtain ⟨-, hlayout, -⟩ := Layout.resolve_eq_ok_iff.mp hresolved
    exact hofCiDir _ hlayout
  case setup =>
    intro files asked given hrefused
    obtain ⟨path, other, hpath⟩ := exists_path_of_resolve hrefused
    cases hpath
  case job =>
    intro l job s hfailed
    rw [l.value_runJob] at hfailed
    cases Job.step?_of_result hfailed
  case answer =>
    intro w env args s complaint hfailed
    exact (Workplace.arises_of_respond hfailed).ne_invalidProfile profile fault

/-- A project that is the root of the host is set up; of two relative directories, the project root
is complained about, and of an empty harness directory, the simulator. -/
theorem build_iff_absolute_of_root :
    Layout.ofCiDir ⟨"//ci"⟩ = .ok ⟨⟨"/"⟩, ⟨"//ci"⟩⟩ ∧
    (∃ setup, build ⟨0, 0⟩ ⟨⟨"/"⟩, ⟨"//ci"⟩⟩ "" true = .ok setup ∧
      (setup.profile .eda).mount.host = ⟨"//ci"⟩) ∧
    build ⟨0, 0⟩ ⟨⟨"proj"⟩, ⟨"ci"⟩⟩ "" true =
      .error (.invalidProfile "toolchain" .relativeMountSource) ∧
    build ⟨0, 0⟩ ⟨⟨"/proj"⟩, ⟨""⟩⟩ "" true =
      .error (.invalidProfile "eda" .relativeMountSource) := by
  have hplaced : Layout.ofCiDir ⟨"//ci"⟩ = .ok ⟨⟨"/"⟩, ⟨"//ci"⟩⟩ := by decide
  obtain ⟨-, -, -, hmade, hofCiDir, -⟩ := build_iff_absolute ⟨0, 0⟩ ⟨⟨"/"⟩, ⟨"//ci"⟩⟩ "" true
  obtain ⟨-, htoolchain, -⟩ := build_iff_absolute ⟨0, 0⟩ ⟨⟨"proj"⟩, ⟨"ci"⟩⟩ "" true
  obtain ⟨-, -, heda, -⟩ := build_iff_absolute ⟨0, 0⟩ ⟨⟨"/proj"⟩, ⟨""⟩⟩ "" true
  obtain ⟨setup, hsetup⟩ := hofCiDir ⟨"//ci"⟩ hplaced
  exact ⟨hplaced, ⟨setup, hsetup, (hmade setup hsetup).2.2.2.2.2.2⟩, htoolchain (by decide),
    heda (by decide) (by decide)⟩

end Setup

end CiHarness
