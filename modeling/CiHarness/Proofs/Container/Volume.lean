import CiHarness.Proofs.Container.Profile
import CiHarness.Proofs.Project.Parent
import CiHarness.Proofs.Step.Container

/-!
# Volume options

The mount of a profile is told to the container runtime in one token, with a colon between the
source and the target. A runtime that cuts the token at its colon finds both of them again exactly
if neither has a colon itself, and no check looks for one. So a harness directory can be mounted
exactly if there is no colon in its path. The main statement is `tellsMount_iff_no_colon`.
-/
namespace CiHarness

namespace Mount

/-- A volume option as it is read: the source before its only colon, and the target after it. -/
def ofVolumeOption? (option : String) : Option Mount :=
  match Text.split ':' option with
  | [source, target] => some ⟨⟨source⟩, target⟩
  | _ => none

theorem ofVolumeOption?_eq_some_iff {option : String} {m : Mount} :
    ofVolumeOption? option = some m ↔ Text.split ':' option = [m.host.text, m.container] := by
  rw [ofVolumeOption?]
  split
  · next source target hsplit =>
    rw [hsplit]
    obtain ⟨⟨host⟩, container⟩ := m
    simp
  · next hsplit =>
    simp only [reduceCtorEq, false_iff]
    exact fun h => hsplit _ _ h

/-- A mount whose places have no colon is read back from its option, and no other mount is. -/
theorem ofVolumeOption?_volumeOption_iff (m : Mount) :
    ofVolumeOption? m.volumeOption = some m ↔ ':' ∉ m.host.text.toList ∧
      ':' ∉ m.container.toList := by
  rw [ofVolumeOption?_eq_some_iff]
  exact Text.split_append_iff

theorem count_volumeOption_iff (m : Mount) :
    m.volumeOption.toList.count ':' = 1 ↔ ':' ∉ m.host.text.toList ∧ ':' ∉ m.container.toList :=
  Text.count_append_iff

/-- Where the target is known, an option belongs to one source only, with colons in it or not. -/
theorem eq_of_volumeOption_eq {m other : Mount} (hcontainer : m.container = other.container)
    (h : m.volumeOption = other.volumeOption) : m = other := by
  obtain ⟨⟨host⟩, container⟩ := m
  obtain ⟨⟨host'⟩, container'⟩ := other
  obtain rfl : container = container' := hcontainer
  have hhost : host = host' := by
    have hcolon : host ++ ":" = host' ++ ":" := (String.append_left_inj container).mp h
    exact (String.append_left_inj ":").mp hcolon
  rw [hhost]

end Mount

namespace Profile

/-- The invocation of a profile tells its mount if the value of its volume option has a single
colon, and the mount is read from it. -/
def TellsMount (p : Profile) : Prop :=
  ∀ (identity : Identity) (runtime : String), ∃ volume,
    (p.invocation identity runtime)[6]? = some "-v" ∧
    (p.invocation identity runtime)[7]? = some volume ∧
    volume.toList.count ':' = 1 ∧ Mount.ofVolumeOption? volume = some p.mount

theorem tellsMount_iff (p : Profile) :
    p.TellsMount ↔ ':' ∉ p.mount.host.text.toList ∧ ':' ∉ p.mount.container.toList := by
  have hvalue (identity : Identity) (runtime : String) :
      (p.invocation identity runtime)[7]? = some p.mount.volumeOption := rfl
  constructor
  · intro h
    obtain ⟨volume, -, hvolume, hcount, -⟩ := h ⟨0, 0⟩ ""
    obtain rfl : p.mount.volumeOption = volume :=
      Option.some.inj ((hvalue ⟨0, 0⟩ "").symm.trans hvolume)
    exact p.mount.count_volumeOption_iff.mp hcount
  · intro h identity runtime
    exact ⟨_, rfl, hvalue identity runtime, p.mount.count_volumeOption_iff.mpr h,
      p.mount.ofVolumeOption?_volumeOption_iff.mpr h⟩

/-- **An invocation tells its mount exactly if there is no colon in it.** This is so for every
profile that passes the check, which does not look for colons. Of an accepted harness directory both
profiles can be made; the toolchain tells its mount exactly if the project root has no colon, the
simulator exactly if the harness directory has none, and as the one is a part of the other, both do
exactly if the harness directory has none. -/
theorem tellsMount_iff_no_colon (given : Profile) (ciDir : Path) :
    (∀ p, checked given = .ok p →
      (p.TellsMount ↔ ':' ∉ given.mount.host.text.toList ∧ ':' ∉ given.mount.container.toList)) ∧
    ∀ layout, Layout.ofCiDir ciDir = .ok layout →
      ∀ (identity : Identity) (runtime : String) (containerized : Bool), ∃ setup,
        Setup.build identity layout runtime containerized = .ok setup ∧
        (setup.toolchain.TellsMount ↔ ':' ∉ layout.projectRoot.text.toList) ∧
        (setup.eda.TellsMount ↔ ':' ∉ ciDir.text.toList) ∧
        ((∀ kind, (setup.profile kind).TellsMount) ↔ ':' ∉ ciDir.text.toList) := by
  refine ⟨?profiles, ?setups⟩
  case profiles =>
    intro p h
    obtain ⟨rfl, -⟩ := checked_eq_ok_iff.mp h
    exact given.tellsMount_iff
  case setups =>
    intro layout h identity runtime containerized
    obtain ⟨habs, hdir, hparent⟩ := Layout.ofCiDir_eq_ok_iff.mp h
    obtain rfl := hdir
    have hroot : layout.projectRoot.isAbsolute = true := Path.isAbsolute_of_parent? hparent
    have hbuild : Setup.build identity layout runtime containerized =
        .ok (.ofLayout identity layout runtime containerized) :=
      (Setup.build_eq_ok_iff identity layout runtime).mpr ⟨hroot, habs, rfl⟩
    obtain ⟨htarget, htarget'⟩ : ':' ∉ toolchainWorkdir.toList ∧ ':' ∉ edaWorkdir.toList := by
      decide
    have htoolchain : (toolchainOn layout.projectRoot).TellsMount ↔
        ':' ∉ layout.projectRoot.text.toList :=
      (tellsMount_iff _).trans (and_iff_left htarget)
    have heda : (edaOn layout.ciDir).TellsMount ↔ ':' ∉ layout.ciDir.text.toList :=
      (tellsMount_iff _).trans (and_iff_left htarget')
    refine ⟨_, hbuild, htoolchain, heda, fun hall => heda.mp (hall .eda), fun hcolon kind => ?_⟩
    cases kind with
    | toolchain =>
      have hpart : layout.projectRoot.text.toList ⊆ layout.ciDir.text.toList :=
        (Path.isPrefix_text_of_parent? hparent).subset
      exact htoolchain.mpr fun hmem => hcolon (hpart hmem)
    | eda => exact heda.mpr hcolon

/-- Both mounts of an ordinary project are told. -/
theorem mounts_told :
    let layout : Layout := ⟨⟨"/proj"⟩, ⟨"/proj/ci"⟩⟩
    Layout.ofCiDir ⟨"/proj/ci"⟩ = .ok layout ∧
      checked (toolchainOn ⟨"/proj"⟩) = .ok (toolchainOn ⟨"/proj"⟩) ∧
      (toolchainOn ⟨"/proj"⟩).TellsMount ∧
      ∃ setup, Setup.build ⟨1000, 1000⟩ layout "docker" true = .ok setup ∧
        ∀ kind, (setup.profile kind).TellsMount := by
  intro layout
  have hlayout : Layout.ofCiDir ⟨"/proj/ci"⟩ = .ok layout := by decide
  have hchecked : checked (toolchainOn ⟨"/proj"⟩) = .ok (toolchainOn ⟨"/proj"⟩) := by decide
  obtain ⟨hprofile, hsetup⟩ := tellsMount_iff_no_colon (toolchainOn ⟨"/proj"⟩) ⟨"/proj/ci"⟩
  obtain ⟨setup, hbuild, -, -, hboth⟩ := hsetup layout hlayout ⟨1000, 1000⟩ "docker" true
  exact ⟨hlayout, hchecked, (hprofile _ hchecked).mpr (by decide), setup, hbuild,
    hboth.mpr (by decide)⟩

/-- A project root with a colon passes all checks, and what the runtime is told of its mount has
three parts. -/
theorem mount_with_colon_misread :
    let layout : Layout := ⟨⟨"/my:proj"⟩, ⟨"/my:proj/ci"⟩⟩
    Layout.ofCiDir ⟨"/my:proj/ci"⟩ = .ok layout ∧
      ∃ setup, Setup.build ⟨1000, 1000⟩ layout "docker" true = .ok setup ∧
        checked setup.toolchain = .ok setup.toolchain ∧
        (setup.toolchain.invocation ⟨1000, 1000⟩ "docker")[7]? = some "/my:proj:/usr/src/myapp" ∧
        Text.split ':' "/my:proj:/usr/src/myapp" = ["/my", "proj", "/usr/src/myapp"] ∧
        ¬ setup.toolchain.TellsMount := by
  intro layout
  have hbuild : Setup.build ⟨1000, 1000⟩ layout "docker" true =
      .ok (.ofLayout ⟨1000, 1000⟩ layout "docker" true) :=
    (Setup.build_eq_ok_iff _ _ _).mpr ⟨by decide, by decide, rfl⟩
  refine ⟨by decide, _, hbuild, by decide, by decide, by decide, ?_⟩
  rw [tellsMount_iff]
  decide

end Profile

end CiHarness
