import CiHarness.Proofs.Container.Volume

/-!
# What a command tells of its setup

The command of a job in a container names the user, the runtime and the mount, each in a place of
its own, and each is written so that it can be told from every other one: two numbers with a colon
between them, and a directory with a fixed target after it. So a command belongs to one kind of
container and to one directory, and the commands of a build step and of a simulation determine the
setup. The main statement is `commands_determine_setup`.
-/
namespace CiHarness

/-- User and group are found on both sides of the colon. -/
theorem Identity.split_userOption (i : Identity) :
    Text.split ':' i.userOption = [toString i.uid.toNat, toString i.gid.toNat] :=
  Text.split_append_iff.mpr ⟨Text.not_mem_repr (by decide) _, Text.not_mem_repr (by decide) _⟩

theorem Identity.userOption_injective : Function.Injective Identity.userOption := by
  intro i j h
  have hparts : [toString i.uid.toNat, toString i.gid.toNat] =
      [toString j.uid.toNat, toString j.gid.toNat] := by
    rw [← i.split_userOption, ← j.split_userOption, h]
  obtain ⟨huid, hrest⟩ := List.cons.inj hparts
  have hgid := (List.cons.inj hrest).1
  obtain ⟨uid, gid⟩ := i
  obtain ⟨uid', gid'⟩ := j
  obtain rfl : uid = uid' := UInt32.toNat_inj.mp (Text.repr_injective huid)
  obtain rfl : gid = gid' := UInt32.toNat_inj.mp (Text.repr_injective hgid)
  rfl

/-- Every part of an invocation stands in its own place, whatever comes after it. -/
theorem Profile.eq_of_invocation_append {p q : Profile} {identity identity' : Identity}
    {runtime runtime' : String} {rest rest' : List String}
    (h : p.invocation identity runtime ++ rest = q.invocation identity' runtime' ++ rest') :
    runtime = runtime' ∧ identity = identity' ∧ p.mount.volumeOption = q.mount.volumeOption ∧
    p.workdir = q.workdir ∧
      p.image = q.image := by
  simp only [invocation, List.cons_append, List.nil_append, List.cons.injEq, true_and] at h
  obtain ⟨hruntime, huser, hvolume, hworkdir, himage, -⟩ := h
  exact ⟨hruntime, Identity.userOption_injective huser, hvolume, hworkdir, himage⟩

namespace Setup

variable {identity identity' : Identity} {layout layout' : Layout} {runtime runtime' : String}

/-- The image tells the kind of a container. -/
theorem kind_eq_of_image_eq {containerized containerized' : Bool} {kind kind' : ProfileKind}
    (h : ((ofLayout identity layout runtime containerized).profile kind).image =
      ((ofLayout identity' layout' runtime' containerized').profile kind').image) : kind =
        kind' := by
  have hne : "reticle-rust" ≠ "vivado" := by decide
  cases kind <;> cases kind'
  · rfl
  · exact absurd h hne
  · exact absurd h hne.symm
  · rfl

/-- A command in a container belongs to one identity, one runtime, one kind and one directory. -/
theorem eq_of_command_eq {step step' : Step}
    (h : (Job.ofStep (ofLayout identity layout runtime true) step).command =
      (Job.ofStep (ofLayout identity' layout' runtime' true) step').command) :
    identity = identity' ∧ runtime = runtime' ∧ step.kind = step'.kind ∧
      ((ofLayout identity layout runtime true).profile step.kind).mount =
        ((ofLayout identity' layout' runtime' true).profile step'.kind).mount := by
  have htokens := congrArg Command.tokens h
  rw [tokens_ofStep_containerized, tokens_ofStep_containerized] at htokens
  obtain ⟨hruntime, hidentity, hvolume, hworkdir, himage⟩ := Profile.eq_of_invocation_append htokens
  refine ⟨hidentity, hruntime, kind_eq_of_image_eq himage, Mount.eq_of_volumeOption_eq ?_ hvolume⟩
  -- Both containers mount at their working directories.
  rw [mount_profile_ofLayout, mount_profile_ofLayout]
  exact hworkdir

/-- **The commands of a build step and of a simulation determine the setup.** Two setups for
containers in which some steps have the same command have the same user and group and the same
runtime, the steps are of one kind, and what their containers mount is the same. So if this is so
both for steps that build and for simulations, then the setups have the same project root and the
same harness directory, and are the same in all. -/
theorem commands_determine_setup {setup setup' : Setup}
    (h : build identity layout runtime true = .ok setup)
    (h' : build identity' layout' runtime' true = .ok setup') :
    (∀ step step', (Job.ofStep setup step).command = (Job.ofStep setup' step').command →
      identity = identity' ∧ runtime = runtime' ∧ step.kind = step'.kind ∧
        (setup.profile step.kind).mount = (setup'.profile step'.kind).mount) ∧
    ∀ b b' s s' : Step, b.kind = .toolchain → s.kind = .eda →
      (Job.ofStep setup b).command = (Job.ofStep setup' b').command →
      (Job.ofStep setup s).command = (Job.ofStep setup' s').command →
      identity.uid = identity'.uid ∧ identity.gid = identity'.gid ∧ runtime = runtime' ∧
        layout.projectRoot.text = layout'.projectRoot.text ∧
        layout.ciDir.text = layout'.ciDir.text ∧
        setup = setup' := by
  obtain ⟨-, -, rfl⟩ := (build_eq_ok_iff identity layout runtime).mp h
  obtain ⟨-, -, rfl⟩ := (build_eq_ok_iff identity' layout' runtime').mp h'
  refine ⟨fun step step' => eq_of_command_eq, ?_⟩
  intro b b' s s' hb hs hbuild hsimulation
  obtain ⟨rfl, rfl, hkind, hroot⟩ := eq_of_command_eq hbuild
  obtain ⟨-, -, hkind', hdir⟩ := eq_of_command_eq hsimulation
  rw [← hkind, hb] at hroot
  rw [← hkind', hs] at hdir
  have hlayout : layout = layout' := by
    obtain ⟨root, ciDir⟩ := layout
    obtain ⟨root', ciDir'⟩ := layout'
    obtain rfl : root = root' := congrArg Mount.host hroot
    obtain rfl : ciDir = ciDir' := congrArg Mount.host hdir
    rfl
  subst hlayout
  exact ⟨rfl, rfl, rfl, rfl, rfl, rfl⟩

/-- Two project roots of one user, of which one is named like the whole mount of the other. -/
theorem commands_determine_setup_of_colons :
    ∃ setup setup', build ⟨1, 11⟩ ⟨⟨"/a"⟩, ⟨"/a/ci"⟩⟩ "docker" true = .ok setup ∧
      build ⟨1, 11⟩ ⟨⟨"/a:/usr/src/myapp"⟩, ⟨"/a:/usr/src/myapp/ci"⟩⟩ "docker" true = .ok setup' ∧
      ∀ step step', (Job.ofStep setup step).command ≠ (Job.ofStep setup' step').command := by
  have h : build ⟨1, 11⟩ ⟨⟨"/a"⟩, ⟨"/a/ci"⟩⟩ "docker" true =
      .ok (ofLayout ⟨1, 11⟩ ⟨⟨"/a"⟩, ⟨"/a/ci"⟩⟩ "docker" true) :=
    (build_eq_ok_iff _ _ _).mpr ⟨by decide, by decide, rfl⟩
  have h' : build ⟨1, 11⟩ ⟨⟨"/a:/usr/src/myapp"⟩, ⟨"/a:/usr/src/myapp/ci"⟩⟩ "docker" true =
      .ok (ofLayout ⟨1, 11⟩ ⟨⟨"/a:/usr/src/myapp"⟩, ⟨"/a:/usr/src/myapp/ci"⟩⟩ "docker" true) :=
    (build_eq_ok_iff _ _ _).mpr ⟨by decide, by decide, rfl⟩
  obtain ⟨hcommand, -⟩ := commands_determine_setup h h'
  refine ⟨_, _, h, h', fun step step' heq => ?_⟩
  obtain ⟨-, -, hkind, hmount⟩ := hcommand step step' heq
  rw [← hkind] at hmount
  cases hk : step.kind with
  | toolchain =>
    rw [hk] at hmount
    exact absurd hmount (by decide)
  | eda =>
    rw [hk] at hmount
    exact absurd hmount (by decide)

end Setup

end CiHarness
