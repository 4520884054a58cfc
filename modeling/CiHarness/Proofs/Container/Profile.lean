import CiHarness.Proofs.Path
import CiHarness.Proofs.Record.Setup
import Mathlib.Tactic.MkIffOfInductiveProp

/-!
# Valid profiles

A profile is valid if its image has a name and all of its places are absolute. The check that a
profile passes when it is made accepts exactly the valid ones, so both profiles of a layout are
valid, and the invocation of a container names an image and absolute places. Reading a record makes
no check: every profile whatever, valid or not, is read from its record. The main statement is
`valid_iff_passes_if_read`.
-/
namespace CiHarness

namespace Profile

theorem isRooted_iff (s : String) : isRooted s = true ↔ s.toList.head? = some '/' :=
  Path.isAbsolute_iff_head? ⟨s⟩

/-- What is asked of a profile: an image that is not blank, places in the container and on the host
that begin with a slash, and no empty token in the login shell. -/
@[mk_iff] structure Valid (p : Profile) : Prop where
  image_not_blank : Text.trim p.image ≠ ""
  workdir_rooted : p.workdir.toList.head? = some '/'
  target_rooted : p.mount.container.toList.head? = some '/'
  source_rooted : p.mount.host.text.toList.head? = some '/'
  outputDir_rooted : ∀ dir, p.outputDir = some dir → dir.toList.head? = some '/'
  shell_not_empty : ∀ shell, p.loginShell = some shell → shell.1 ≠ "" ∧ shell.2 ≠ ""

/-! ## The check of a profile -/

/-- A row of conditions finds no fault if the first one holds and the others find none. -/
theorem ite_some_eq_none_iff {α : Type} {c : Prop} [Decidable c] (fault : α) (rest : Option α) :
    (if c then some fault else rest) = none ↔ ¬ c ∧ rest = none := by
  split <;> simp [*]

theorem outputDir_fault_iff (dir : Option String) :
    dir.any (!isRooted ·) = true ↔ ¬ ∀ d, dir = some d → d.toList.head? = some '/' := by
  cases dir <;> simp [← isRooted_iff]

theorem shell_fault_iff (shell : Option (String × String)) :
    (shell.any fun (shell, option) => shell = "" || option = "") = true ↔
      ¬ ∀ tokens, shell = some tokens → tokens.1 ≠ "" ∧ tokens.2 ≠ "" := by
  cases shell with
  | none => simp
  | some tokens =>
    simp only [Option.any_some, Bool.or_eq_true, decide_eq_true_eq, Option.some.injEq, forall_eq',
      ne_eq, not_and_or, not_not]

/-- **The check of a profile finds no fault exactly in the valid ones.** -/
theorem fault?_eq_none_iff (p : Profile) : p.fault? = none ↔ p.Valid := by
  rw [valid_iff]
  simp only [fault?, ite_some_eq_none_iff, outputDir_fault_iff, shell_fault_iff, not_not, and_true,
    Bool.not_eq_true', Bool.not_eq_false, isRooted_iff, Path.isAbsolute_iff_head?, ne_eq]

/-- A profile passes the check unchanged, and only if it is valid. -/
theorem checked_eq_ok_iff {p q : Profile} : checked p = .ok q ↔ p = q ∧ q.Valid := by
  rw [checked, ← fault?_eq_none_iff]
  cases hfault : p.fault? with
  | none =>
    simp only [Except.ok.injEq, iff_self_and]
    rintro rfl
    exact hfault
  | some fault =>
    simp only [reduceCtorEq, false_iff, not_and]
    rintro rfl
    simp [hfault]

/-! ## Where profiles come from -/

/-- The ways in which a profile comes about: from its fields by way of the check, for a layout, or
out of a record. -/
inductive Origin where
  | fields (given : Profile)
  | toolchain (l : Layout)
  | eda (l : Layout)
  | record (v : Json)

/-- A profile comes about in a way. -/
def Origin.Yields : Origin → Profile → Prop
  | .fields given, p => checked given = .ok p
  | .toolchain l, p => Profile.toolchain l = .ok p
  | .eda l, p => Profile.eda l = .ok p
  | .record v, p => Profile.ofJson? v = some p

/-- What comes about in any other way than out of a record has passed the check. -/
theorem Origin.Yields.valid {origin : Origin} {p : Profile} (h : origin.Yields p)
    (hread : ∀ v, origin ≠ .record v) : p.Valid := by
  cases origin with
  | fields given => exact (checked_eq_ok_iff.mp h).2
  | toolchain l =>
    rw [Yields, Profile.toolchain] at h
    exact (checked_eq_ok_iff.mp h).2
  | eda l =>
    rw [Yields, Profile.eda] at h
    exact (checked_eq_ok_iff.mp h).2
  | record v => exact absurd rfl (hread v)

/-- The invocation of a container begins with the same tokens for every profile, and only the login
shell comes after the image. -/
theorem exists_invocation_eq (p : Profile) (identity : Identity) (runtime : String) :
    ∃ shell, p.invocation identity runtime =
      [runtime, "run", "--rm", "--pid=host", "--user", identity.userOption, "-v",
        p.mount.host.text ++ ":" ++ p.mount.container, "-w", p.workdir, p.image] ++ shell :=
  ⟨_, rfl⟩

theorem Valid.image_ne {p : Profile} (h : p.Valid) : p.image ≠ "" := by
  intro hempty
  have hblank : Text.trim p.image = "" := by
    rw [hempty]
    decide
  exact h.image_not_blank hblank

/-- **A profile is valid exactly if, where it was read from a record, it also passes the check.** So
the profiles that are made from fields or for a layout are all valid, and a container that is
started by a valid profile is told an image with a name, an absolute working directory, and absolute
places on both sides of its volume. But a record is read without the check, and every profile is
read from the record that is written of it. -/
theorem valid_iff_passes_if_read {origin : Origin} {p : Profile} (h : origin.Yields p) :
    (p.Valid ↔ ∀ v, origin = .record v → checked p = .ok p) ∧
    (p.Valid → ∀ (identity : Identity) (runtime : String),
      (∃ shell, p.invocation identity runtime =
        [runtime, "run", "--rm", "--pid=host", "--user", identity.userOption, "-v",
          p.mount.host.text ++ ":" ++ p.mount.container, "-w", p.workdir, p.image] ++ shell) ∧
      p.image ≠ "" ∧ p.workdir.toList.head? = some '/' ∧ p.mount.host.text.toList.head? = some '/' ∧
      p.mount.container.toList.head? = some '/') ∧
    ∀ q : Profile, (Origin.record q.toJson).Yields q := by
  refine ⟨⟨?passes, ?valid⟩, ?invocation, fun q => q.ofJson?_toJson⟩
  case passes => exact fun hvalid _ _ => checked_eq_ok_iff.mpr ⟨rfl, hvalid⟩
  case valid =>
    intro hpasses
    by_cases hread : ∃ v, origin = .record v
    · obtain ⟨v, hv⟩ := hread
      exact (checked_eq_ok_iff.mp (hpasses v hv)).2
    · exact h.valid (not_exists.mp hread)
  case invocation =>
    intro hvalid identity runtime
    exact ⟨p.exists_invocation_eq identity runtime, hvalid.image_ne, hvalid.workdir_rooted,
      hvalid.source_rooted, hvalid.target_rooted⟩

/-- The simulator profile of a project that lies directly below the root of the host. -/
theorem valid_iff_passes_if_read_of_eda :
    ∃ p, (Origin.eda ⟨⟨"/"⟩, ⟨"/ci"⟩⟩).Yields p ∧ p.Valid ∧ p.mount.host = ⟨"/ci"⟩ := by
  have h : (Origin.eda ⟨⟨"/"⟩, ⟨"/ci"⟩⟩).Yields
      ⟨.eda, "vivado", edaWorkdir, some "/home/vivado/output", ⟨⟨"/ci"⟩, edaWorkdir⟩,
        some ("bash", "--login")⟩ := by
    rfl
  obtain ⟨hvalid, -, -⟩ := valid_iff_passes_if_read h
  exact ⟨_, h, hvalid.mpr (by simp), rfl⟩

/-- A profile with no image and with places that are not absolute is refused when it is made from
its fields, and is read from a record; the container is then told all of them. -/
theorem read_without_check :
    ∃ v p, (Origin.record v).Yields p ∧ ¬ p.Valid ∧
      checked p = .error (.invalidProfile "toolchain" .emptyImage) ∧
      p.invocation ⟨1000, 1000⟩ "docker" =
        ["docker", "run", "--rm", "--pid=host", "--user", "1000:1000", "-v", "proj:work", "-w",
          "work", ""] := by
  refine ⟨.object [("kind", .text "toolchain"), ("image", .text ""), ("workdir", .text "work"),
      ("output_dir", .null),
      ("mount", .object [("host", .text "proj"), ("container", .text "work")]),
      ("login_shell", .null)],
    ⟨.toolchain, "", "work", none, ⟨⟨"proj"⟩, "work"⟩, none⟩, ?_, ?_, ?_, ?_⟩
  · show Profile.ofJson? _ = some _
    decide
  · rw [← fault?_eq_none_iff]
    decide
  · decide
  · decide

end Profile

end CiHarness
