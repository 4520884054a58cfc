import CiHarness.Proofs.Step.Names
import CiHarness.Proofs.Step.Setup

/-!
# Selections as sets

What names select is a set of steps, given in catalogue order. It depends only on which steps the
names are of, and not on their order, on names that come twice or on blanks around them; it is never
empty, since no names at all select the whole catalogue; and the names of what was selected select
the same again. The main statement is `select_ordered_set`.
-/
namespace CiHarness

/-- Blanks around a name make no difference to the step. -/
theorem Step.ofName_padded_iff {name other : String} (h : Text.IsPadded name other) (step : Step) :
    Step.ofName other = .ok step ↔ Step.ofName name = .ok step := by
  rw [ofName_eq_ok_iff, ofName_eq_ok_iff, h.trim_congr]

/-- Names are of the same steps if each step has a name on both sides or on neither. -/
def SameSteps (names others : List String) : Prop :=
  ∀ step : Step, (∃ other ∈ others, Step.ofName other = .ok step) ↔ ∃ name ∈ names,
    Step.ofName name = .ok step

/-- Names are the same up to order, repetition and blanks if the other ones are these with blanks
put around them, and none of these is left out. -/
structure SameNames (names others : List String) : Prop where
  added : ∀ other ∈ others, ∃ name ∈ names, Text.IsPadded name other
  kept : ∀ name ∈ names, ∃ other ∈ others, Text.IsPadded name other

namespace SameNames

variable {names others : List String}

theorem eq_nil_iff (h : SameNames names others) : others = [] ↔ names = [] := by
  constructor
  · rintro rfl
    exact List.eq_nil_iff_forall_not_mem.mpr fun name hname => by simpa using h.kept name hname
  · rintro rfl
    exact List.eq_nil_iff_forall_not_mem.mpr fun other hother => by simpa using h.added other hother

theorem isName (h : SameNames names others) (hnames : ∀ name ∈ names, Step.IsName name) :
    ∀ other ∈ others, Step.IsName other := by
  intro other hother
  obtain ⟨name, hname, hpadded⟩ := h.added other hother
  obtain ⟨step, hstep⟩ := hnames name hname
  exact ⟨step, (Step.ofName_padded_iff hpadded step).mpr hstep⟩

theorem sameSteps (h : SameNames names others) : SameSteps names others := by
  intro step
  constructor
  · rintro ⟨other, hother, hstep⟩
    obtain ⟨name, hname, hpadded⟩ := h.added other hother
    exact ⟨name, hname, (Step.ofName_padded_iff hpadded step).mp hstep⟩
  · rintro ⟨name, hname, hstep⟩
    obtain ⟨other, hother, hpadded⟩ := h.kept name hname
    exact ⟨other, hother, (Step.ofName_padded_iff hpadded step).mpr hstep⟩

end SameNames

namespace Step

variable {names others : List String}

/-- What is chosen depends on the steps of the names, and on whether there are names. -/
theorem isChosen_congr (hempty : others = [] ↔ names = []) (h : SameSteps names others) :
    isChosen others = isChosen names := by
  funext step
  rw [Bool.eq_iff_iff, isChosen_iff, isChosen_iff, hempty, h step]

/-- The names of steps choose those steps. -/
theorem isChosen_map_name_iff {steps : List Step} (hne : steps ≠ []) (step : Step) :
    isChosen (steps.map name) step = true ↔ step ∈ steps := by
  have hread : ∀ other : Step, ofName other.name = .ok step ↔ other = step := by
    intro other
    rw [ofName_name, Except.ok.injEq]
  simp [isChosen_iff, hne, hread]

/-- The names of what is chosen choose the same again. -/
theorem filter_isChosen_names (hne : Step.all.filter (isChosen names) ≠ []) :
    Step.all.filter (isChosen ((Step.all.filter (isChosen names)).map name)) =
      Step.all.filter (isChosen names) := by
  refine List.filter_congr fun step hstep => ?_
  rw [Bool.eq_iff_iff, isChosen_map_name_iff hne, List.mem_filter]
  exact and_iff_right hstep

/-- Two steps that are both chosen stay in the order in which the catalogue has them. -/
theorem pair_sublist_filter {first second : Step} (horder : [first, second].Sublist Step.all)
    {p : Step → Bool} (hfirst : first ∈ Step.all.filter p) (hsecond : second ∈ Step.all.filter p) :
    [first, second].Sublist (Step.all.filter p) := by
  have hpair := horder.filter p
  rwa [List.filter_eq_self.mpr] at hpair
  simp [(List.mem_filter.mp hfirst).2, (List.mem_filter.mp hsecond).2]

end Step

namespace Job

/-- Names that are all known, and of the same steps, select the same. -/
theorem select_congr (setup : Setup) {names others : List String}
    (hnames : ∀ name ∈ names, Step.IsName name) (hothers : ∀ other ∈ others, Step.IsName other)
    (hempty : others = [] ↔ names = [])
    (h : SameSteps names others) : select setup others = select setup names := by
  rw [select_of_isName setup hothers, select_of_isName setup hnames, Step.isChosen_congr hempty h]

/-- **A selection is a set of steps in catalogue order**, each made ready for the setup: the whole
catalogue without names, and else the steps that some name is of, each once. Other names of the same
steps select the same, in particular the same names in another order, repeated or with blanks around
them. There is always something selected; the build comes before what it compiles, and a compilation
before the simulation of its result; and the names of the selected jobs select them again. -/
theorem select_ordered_set (setup : Setup) {names : List String}
    (h : ∀ name ∈ names, Step.IsName name) :
    ∃ steps : List Step,
      select setup names = .ok (steps.map (ofStep setup)) ∧
      steps.Sublist Step.all ∧ steps.Nodup ∧ steps ≠ [] ∧
      (names = [] → steps = Step.all) ∧
      (names ≠ [] → ∀ step, step ∈ steps ↔ ∃ name ∈ names, Step.ofName name = .ok step) ∧
      (∀ others, names ≠ [] → others ≠ [] → (∀ other ∈ others, Step.IsName other) →
        SameSteps names others →
        select setup others = select setup names) ∧
      (∀ others, SameNames names others → select setup others = select setup names) ∧
      (∀ s, .build ∈ steps → .compile s ∈ steps → [.build, .compile s].Sublist steps) ∧
      (∀ s, .compile s ∈ steps → .simulate s ∈ steps → [.compile s, .simulate s].Sublist steps) ∧
      select setup ((steps.map (ofStep setup)).map (·.name)) = .ok (steps.map (ofStep setup)) := by
  have hne : Step.all.filter (Step.isChosen names) ≠ [] := Step.filter_isChosen_ne_nil h
  refine ⟨Step.all.filter (Step.isChosen names), select_of_isName setup h, List.filter_sublist,
    Step.nodup_all.filter _, hne, ?all, ?members, ?sameSteps, ?sameNames, ?build, ?compile, ?again⟩
  case all =>
    rintro rfl
    exact List.filter_eq_self.mpr fun _ _ => rfl
  case members =>
    intro hnames step
    rw [List.mem_filter, Step.isChosen_iff, or_iff_right hnames]
    exact and_iff_right step.mem_all
  case sameSteps =>
    intro others hnames hothers hknown hsame
    exact select_congr setup h hknown (by simp [hnames, hothers]) hsame
  case sameNames =>
    intro others hsame
    exact select_congr setup h (hsame.isName h) hsame.eq_nil_iff hsame.sameSteps
  case build =>
    intro s hbuild hcompile
    exact Step.pair_sublist_filter (by cases s <;> decide) hbuild hcompile
  case compile =>
    intro s hcompile hsimulate
    exact Step.pair_sublist_filter (by cases s <;> decide) hcompile hsimulate
  case again =>
    have hnames : ((Step.all.filter (Step.isChosen names)).map (ofStep setup)).map (·.name) =
        (Step.all.filter (Step.isChosen names)).map Step.name := by
      rw [List.map_map]
      rfl
    have hknown : ∀ name ∈ (Step.all.filter (Step.isChosen names)).map Step.name,
        Step.IsName name := by
      intro name hname
      obtain ⟨step, -, rfl⟩ := List.mem_map.mp hname
      exact ⟨step, step.ofName_name⟩
    rw [hnames, select_of_isName setup hknown, Step.filter_isChosen_names hne]

/-- Names in another order, with one repeated and blanks around it, select the same. -/
theorem select_ordered_set_of_repeated :
    (∀ name ∈ ["sim:fsm", "fmt"], Step.IsName name) ∧
      select (Setup.sample false) ["fmt", "sim:fsm", "\u00A0fmt\n"] =
        select (Setup.sample false) ["sim:fsm", "fmt"] := by
  have hknown : ∀ name ∈ ["sim:fsm", "fmt"], Step.IsName name := by decide
  have hpadded : Text.IsPadded "fmt" "\u00A0fmt\n" :=
    .of_chars '\u00A0' '\n' (by decide) (by decide) (by decide)
  have hsame : SameNames ["sim:fsm", "fmt"] ["fmt", "sim:fsm", "\u00A0fmt\n"] := by
    constructor
    · simp [hpadded, Text.IsPadded.refl]
    · simp [hpadded, Text.IsPadded.refl]
  obtain ⟨-, -, -, -, -, -, -, -, hothers, -⟩ := select_ordered_set (Setup.sample false) hknown
  exact ⟨hknown, hothers _ hsame⟩

end Job

end CiHarness
