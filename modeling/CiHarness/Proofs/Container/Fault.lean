import CiHarness.Proofs.Container.Profile
import CiHarness.Proofs.Text.Blank

/-!
# The first fault of a profile

Six conditions are put to a profile, in a fixed order, and each is about one part of it. A profile
that breaks none of them is accepted as it is; of the ones that are broken, the first is reported,
whatever else is broken after it. So a profile with one part mended breaks nothing that it did not
break before, and what is reported of it then comes no earlier in the order. The main statement is
`checked_reports_first`.
-/
namespace CiHarness

/-- Nothing is left of a text without the blanks at its ends exactly if it is all blank. -/
theorem Text.trim_eq_empty_iff (s : String) : trim s = "" ↔ ∀ c ∈ s.toList, isBlank c = true := by
  constructor
  · intro h c hc
    obtain ⟨front, back, hfront, hback, hs⟩ := isPadded_trim s
    rw [hs, h] at hc
    simp only [String.toList_empty, List.append_nil, List.mem_append] at hc
    exact hc.elim (hfront c) (hback c)
  · intro h
    have hpadded : IsPadded "" s := ⟨s.toList, [], h, by simp, by simp⟩
    exact hpadded.trim_eq (isTight_of_forall (by simp))

namespace ProfileFault

/-- The faults in the order in which they are looked for. -/
def inOrder : List ProfileFault :=
  [.emptyImage, .relativeWorkdir, .relativeMountTarget, .relativeMountSource, .relativeOutputDir,
    .emptyShellToken]

/-- The place of a fault in the order. -/
def place (fault : ProfileFault) : Nat := inOrder.idxOf fault

theorem pairwise_place : inOrder.Pairwise fun fault later => fault.place < later.place := by decide

/-- What is not in front of a fault does not come before it. -/
theorem place_le_of_not_mem {before after : List ProfileFault} {fault other : ProfileFault}
    (h : inOrder = before ++ fault :: after) (hmem : other ∈ inOrder) (hother : other ∉ before) :
    fault.place ≤ other.place := by
  have hpairwise := pairwise_place
  rw [h, List.pairwise_append, List.pairwise_cons] at hpairwise
  obtain ⟨-, ⟨hafter, -⟩, -⟩ := hpairwise
  rw [h, List.mem_append, List.mem_cons] at hmem
  rcases hmem with hbefore | rfl | hmem
  · exact absurd hbefore hother
  · exact Nat.le_refl _
  · exact Nat.le_of_lt (hafter other hmem)

end ProfileFault

namespace Profile

/-- A profile breaks the condition behind a fault. -/
def Breaks (p : Profile) : ProfileFault → Prop
  | .emptyImage => ∀ c ∈ p.image.toList, Text.isBlank c = true
  | .relativeWorkdir => p.workdir.toList.head? ≠ some '/'
  | .relativeMountTarget => p.mount.container.toList.head? ≠ some '/'
  | .relativeMountSource => p.mount.host.text.toList.head? ≠ some '/'
  | .relativeOutputDir => ∃ dir ∈ p.outputDir, dir.toList.head? ≠ some '/'
  | .emptyShellToken => ∃ shell ∈ p.loginShell, shell.1 = "" ∨ shell.2 = ""
  | .other _ => False

instance (p : Profile) : DecidablePred p.Breaks
  | .emptyImage => List.decidableBAll (Text.isBlank · = true) p.image.toList
  | .relativeWorkdir => inferInstanceAs (Decidable (p.workdir.toList.head? ≠ some '/'))
  | .relativeMountTarget => inferInstanceAs (Decidable (p.mount.container.toList.head? ≠ some '/'))
  | .relativeMountSource => inferInstanceAs (Decidable (p.mount.host.text.toList.head? ≠ some '/'))
  | .relativeOutputDir =>
    inferInstanceAs (Decidable (∃ dir ∈ p.outputDir, dir.toList.head? ≠ some '/'))
  | .emptyShellToken =>
    inferInstanceAs (Decidable (∃ shell ∈ p.loginShell, shell.1 = "" ∨ shell.2 = ""))
  | .other _ => inferInstanceAs (Decidable False)

theorem mem_inOrder_of_breaks {p : Profile} {fault : ProfileFault} (h : p.Breaks fault) :
    fault ∈ ProfileFault.inOrder := by
  cases fault with
  | other words => exact h.elim
  | _ => decide

/-- What is looked for in a list is its first element if a condition on that holds, and is looked
for behind it otherwise. -/
theorem find?_cons_eq_ite {α : Type} {P : α → Prop} [DecidablePred P] {c : Prop} [Decidable c]
    {x : α} (h : c ↔ P x) (xs : List α) :
    (x :: xs).find? (fun y => P y) = if c then some x else xs.find? fun y => P y := by
  by_cases hc : c
  · simp [hc, h.mp hc]
  · simp [hc, mt h.mpr hc]

/-- The conditions are looked at in their order, and the first broken one is found. -/
theorem fault?_eq_find? (p : Profile) :
    p.fault? = ProfileFault.inOrder.find? fun fault => p.Breaks fault := by
  have himage : Text.trim p.image = "" ↔ p.Breaks .emptyImage := Text.trim_eq_empty_iff p.image
  have hworkdir : (!isRooted p.workdir) = true ↔ p.Breaks .relativeWorkdir := by
    simp [Breaks, ← isRooted_iff]
  have htarget : (!isRooted p.mount.container) = true ↔ p.Breaks .relativeMountTarget := by
    simp [Breaks, ← isRooted_iff]
  have hsource : (!p.mount.host.isAbsolute) = true ↔ p.Breaks .relativeMountSource := by
    simp [Breaks, ← Path.isAbsolute_iff_head?]
  have houtput : p.outputDir.any (!isRooted ·) = true ↔ p.Breaks .relativeOutputDir := by
    simp [outputDir_fault_iff, Breaks]
  have hempty : (¬ ∀ tokens, p.loginShell = some tokens → tokens.1 ≠ "" ∧ tokens.2 ≠ "") ↔
      p.Breaks .emptyShellToken := by simp [Breaks, imp_iff_not_or]
  have hshell := (shell_fault_iff p.loginShell).trans hempty
  rw [fault?, ProfileFault.inOrder, find?_cons_eq_ite himage, find?_cons_eq_ite hworkdir,
    find?_cons_eq_ite htarget,
    find?_cons_eq_ite hsource, find?_cons_eq_ite houtput, find?_cons_eq_ite hshell, List.find?_nil]

/-- A fault is found if its condition is broken and none in front of it is. -/
theorem fault?_eq_some_iff {p : Profile} {fault : ProfileFault} :
    p.fault? = some fault ↔ ∃ before after, ProfileFault.inOrder = before ++ fault :: after ∧
      p.Breaks fault ∧
      ∀ earlier ∈ before, ¬ p.Breaks earlier := by
  rw [fault?_eq_find?, List.find?_eq_some_iff_append]
  constructor
  · rintro ⟨hbroken, before, after, horder, hbefore⟩
    exact ⟨before, after, horder, by simpa using hbroken, by simpa using hbefore⟩
  · rintro ⟨before, after, horder, hbroken, hbefore⟩
    exact ⟨by simpa using hbroken, before, after, horder, by simpa using hbefore⟩

/-- A profile is refused for the fault that is found, under the name of its kind. -/
theorem checked_eq_error_iff {p : Profile} {failure : Failure} :
    checked p = .error failure ↔ ∃ fault, p.fault? = some fault ∧
      failure = .invalidProfile p.kind.name fault := by
  rw [checked]
  cases p.fault? <;> simp [eq_comm]

/-! ## Mended profiles -/

/-- A profile is mended by another value of one part of it, which meets what is asked of that
part. -/
inductive Mended (p : Profile) : Profile → Prop
  | kind (kind : ProfileKind) : p.Mended { p with kind := kind }
  | image (image : String) (h : ∃ c ∈ image.toList, Text.isBlank c = false) :
      p.Mended { p with image := image }
  | workdir (workdir : String) (h : workdir.toList.head? = some '/') :
      p.Mended { p with workdir := workdir }
  | target (container : String) (h : container.toList.head? = some '/') :
      p.Mended { p with mount := { p.mount with container := container } }
  | source (host : Path) (h : host.text.toList.head? = some '/') :
      p.Mended { p with mount := { p.mount with host := host } }
  | mount (mount : Mount) (htarget : mount.container.toList.head? = some '/')
      (hsource : mount.host.text.toList.head? = some '/') : p.Mended { p with mount := mount }
  | outputDir (dir : Option String) (h : ∀ d ∈ dir, d.toList.head? = some '/') :
      p.Mended { p with outputDir := dir }
  | loginShell (shell : Option (String × String))
      (h : ∀ tokens ∈ shell, tokens.1 ≠ "" ∧ tokens.2 ≠ "") :
      p.Mended { p with loginShell := shell }

/-- A mended profile breaks only what it broke before: the part that is new is in order, and all
others are the same. -/
theorem Mended.breaks {p q : Profile} (h : p.Mended q) {fault : ProfileFault}
    (hbroken : q.Breaks fault) :
    p.Breaks fault := by
  cases h with
  | kind kind => cases fault <;> exact hbroken
  | image image himage =>
    cases fault with
    | emptyImage =>
      obtain ⟨c, hc, hvisible⟩ := himage
      exact absurd (hbroken c hc) (by simp [hvisible])
    | _ => exact hbroken
  | workdir workdir hworkdir =>
    cases fault with
    | relativeWorkdir => exact absurd hworkdir hbroken
    | _ => exact hbroken
  | target container htarget =>
    cases fault with
    | relativeMountTarget => exact absurd htarget hbroken
    | _ => exact hbroken
  | source host hsource =>
    cases fault with
    | relativeMountSource => exact absurd hsource hbroken
    | _ => exact hbroken
  | mount mount htarget hsource =>
    cases fault with
    | relativeMountTarget => exact absurd htarget hbroken
    | relativeMountSource => exact absurd hsource hbroken
    | _ => exact hbroken
  | outputDir dir hdir =>
    cases fault with
    | relativeOutputDir =>
      obtain ⟨d, hd, hrelative⟩ := hbroken
      exact absurd (hdir d hd) hrelative
    | _ => exact hbroken
  | loginShell shell hshell =>
    cases fault with
    | emptyShellToken =>
      obtain ⟨tokens, htokens, hempty⟩ := hbroken
      obtain ⟨hfirst, hsecond⟩ := hshell tokens htokens
      exact absurd hempty (not_or.mpr ⟨hfirst, hsecond⟩)
    | _ => exact hbroken

/-- What is found in a mended profile comes no earlier than what was found before. -/
theorem Mended.place_le {p q : Profile} (h : p.Mended q) {fault other : ProfileFault}
    (hfault : p.fault? = some fault) (hother : q.fault? = some other) :
    fault.place ≤ other.place := by
  obtain ⟨before, after, horder, -, hbefore⟩ := fault?_eq_some_iff.mp hfault
  obtain ⟨-, -, -, hbroken, -⟩ := fault?_eq_some_iff.mp hother
  have hstill : p.Breaks other := h.breaks hbroken
  exact ProfileFault.place_le_of_not_mem horder (mem_inOrder_of_breaks hstill) fun hmem =>
    hbefore other hmem hstill

/-- **A profile is accepted exactly if it is valid, and refused for the first condition that it
breaks.** What is accepted is the profile as it was given. A refusal names the kind of the profile
and the one fault that has none broken in front of it, whatever is broken behind it; the order is
that of the image, the working directory, the target and the source of the mount, the output
directory and the login shell. A refused profile with one part mended is accepted, or it is refused
for something that was broken before and that comes no earlier in the order. -/
theorem checked_reports_first (p : Profile) :
    (∀ q, checked p = .ok q ↔ q = p ∧ p.Valid) ∧
    (∀ failure, checked p = .error failure ↔
      ∃ before fault after, ProfileFault.inOrder = before ++ fault :: after ∧ p.Breaks fault ∧
        (∀ earlier ∈ before, ¬ p.Breaks earlier) ∧ failure = .invalidProfile p.kind.name fault) ∧
    ProfileFault.inOrder.map ProfileFault.message =
      ["image name is empty", "container working directory must be absolute",
        "mount target must be absolute",
        "mount source must be an absolute host path", "container output directory must be absolute",
        "login shell tokens must be non-empty"] ∧
    ∀ q fault, p.Mended q → checked p = .error (.invalidProfile p.kind.name fault) →
      checked q = .ok q ∨
        ∃ other, checked q = .error (.invalidProfile q.kind.name other) ∧ p.Breaks other ∧
          fault.place ≤ other.place := by
  refine ⟨?accepted, ?refused, rfl, ?mended⟩
  case accepted =>
    intro q
    rw [checked_eq_ok_iff, eq_comm]
    exact and_congr_right fun hq => by rw [hq]
  case refused =>
    intro failure
    rw [checked_eq_error_iff]
    constructor
    · rintro ⟨fault, hfault, hfailure⟩
      obtain ⟨before, after, horder, hbroken, hbefore⟩ := fault?_eq_some_iff.mp hfault
      exact ⟨before, fault, after, horder, hbroken, hbefore, hfailure⟩
    · rintro ⟨before, fault, after, horder, hbroken, hbefore, hfailure⟩
      exact ⟨fault, fault?_eq_some_iff.mpr ⟨before, after, horder, hbroken, hbefore⟩, hfailure⟩
  case mended =>
    intro q fault hmended hrefused
    obtain ⟨found, hfound, hfailure⟩ := checked_eq_error_iff.mp hrefused
    obtain rfl : fault = found := (Failure.invalidProfile.inj hfailure).2
    cases hother : q.fault? with
    | none => exact .inl (checked_eq_ok_iff.mpr ⟨rfl, (fault?_eq_none_iff q).mp hother⟩)
    | some other =>
      obtain ⟨-, -, -, hbroken, -⟩ := fault?_eq_some_iff.mp hother
      exact .inr ⟨other, checked_eq_error_iff.mpr ⟨other, hother, rfl⟩, hmended.breaks hbroken,
        hmended.place_le hfound hother⟩

/-- Of a relative working directory, a relative mount source and an empty token, the first is
reported, and with that one mended the second. -/
theorem checked_reports_first_of_three :
    let p : Profile := ⟨.eda, "\u2003vivado", "work", some "/out", ⟨⟨"proj"⟩, "/work"⟩,
      some ("bash", "")⟩
    let q : Profile := { p with workdir := "/work" }
    checked p = .error (.invalidProfile "eda" .relativeWorkdir) ∧
      checked q = .error (.invalidProfile "eda" .relativeMountSource) ∧
      p.Breaks .relativeMountSource ∧
      ProfileFault.relativeWorkdir.place ≤ ProfileFault.relativeMountSource.place := by
  intro p q
  obtain ⟨-, hrefused, -, hmended⟩ := checked_reports_first p
  have hworkdir : checked p = .error (.invalidProfile "eda" .relativeWorkdir) :=
    (hrefused _).mpr ⟨[.emptyImage], .relativeWorkdir, _, rfl, by decide, by decide, rfl⟩
  have hsource : checked q = .error (.invalidProfile "eda" .relativeMountSource) := by decide
  obtain haccepted | ⟨other, hother, hbroken, hplace⟩ :=
    hmended q .relativeWorkdir (.workdir "/work" (by decide)) hworkdir
  · cases hsource.symm.trans haccepted
  · obtain rfl : ProfileFault.relativeMountSource = other :=
      (Failure.invalidProfile.inj (Except.error.inj (hsource.symm.trans hother))).2
    exact ⟨hworkdir, hsource, hbroken, hplace⟩

end Profile

end CiHarness
