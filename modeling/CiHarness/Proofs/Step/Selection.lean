import CiHarness.Proofs.Step.Placement

/-!
# Selected jobs

Names select steps, and the steps come in catalogue order whatever the order of the names. A
selection is therefore known by a test on each step of the catalogue: whether some name is the
step's, or there are no names at all. It fails exactly if some name is no step's, and then by the
first such name.
-/
namespace CiHarness

namespace Step

theorem nodup_all : Step.all.Nodup := by decide

theorem mem_all (step : Step) : step ∈ Step.all := by
  cases step with
  | compile s => cases s <;> decide
  | simulate s => cases s <;> decide
  | _ => decide

/-- A text is a name if it is the name of some step, blanks around it passed over. -/
def IsName (name : String) : Prop := ∃ step, Step.ofName name = .ok step

/-- A name of no step is reported with its text as given. -/
theorem ofName_of_not_isName {name : String} (h : ¬ IsName name) :
    Step.ofName name = .error (.unknownStep name) := by
  rw [ofName]
  split
  · next step hstep => exact absurd ⟨step, by rw [ofName, hstep]⟩ h
  · rfl

instance (name : String) : Decidable (IsName name) :=
  decidable_of_iff ((Step.ofName name).toOption.isSome = true) <| by
    cases h : Step.ofName name <;> simp [IsName, h, Except.toOption]

/-- A step is chosen if a name is its name, or if there are no names. -/
def isChosen (names : List String) (step : Step) : Bool :=
  names.isEmpty || names.any fun name => (Step.ofName name).toOption == some step

theorem isChosen_iff (names : List String) (step : Step) :
    step.isChosen names = true ↔ names = [] ∨ ∃ name ∈ names, Step.ofName name = .ok step := by
  have hname (name : String) : (Step.ofName name).toOption = some step ↔
      Step.ofName name = .ok step := by
    cases Step.ofName name <;> simp [Except.toOption]
  simp [isChosen, hname]

/-- Among names that are not all known there is a first unknown one. -/
theorem exists_first_unknown {names : List String} (h : ∃ name ∈ names, ¬ IsName name) :
    ∃ before name after, names = before ++ name :: after ∧ (∀ n ∈ before, IsName n) ∧
      ¬ IsName name := by
  obtain ⟨name, hname⟩ : ∃ name, names.find? (fun n => !decide (IsName n)) = some name := by
    rw [← Option.isSome_iff_exists, List.find?_isSome]
    simpa using h
  obtain ⟨hunknown, before, after, hnames, hbefore⟩ := List.find?_eq_some_iff_append.mp hname
  exact ⟨before, name, after, hnames,
    fun n hn => by simpa using hbefore n hn, by simpa using hunknown⟩

/-- Names that are all known choose a step. -/
theorem filter_isChosen_ne_nil {names : List String} (h : ∀ name ∈ names, IsName name) :
    Step.all.filter (isChosen names) ≠ [] := by
  have hstep : ∃ step : Step, step.isChosen names = true := by
    cases names with
    | nil => exact ⟨.fmt, rfl⟩
    | cons name rest =>
      obtain ⟨step, hstep⟩ := h name (by simp)
      exact ⟨step, (isChosen_iff _ _).mpr (Or.inr ⟨name, by simp, hstep⟩)⟩
  obtain ⟨step, hchosen⟩ := hstep
  exact List.ne_nil_of_mem (List.mem_filter.mpr ⟨step.mem_all, hchosen⟩)

/-- One name chooses one step. -/
theorem filter_isChosen_singleton {name : String} {step : Step} (h : Step.ofName name = .ok step) :
    Step.all.filter (isChosen [name]) = [step] := by
  have hchosen : ∀ other ∈ Step.all, isChosen [name] other = (other == step) := by
    intro other _
    rw [Bool.eq_iff_iff, isChosen_iff]
    simpa [h] using eq_comm
  have hall : ∀ step ∈ Step.all, Step.all.filter (· == step) = [step] := by decide
  rw [List.filter_congr hchosen, hall step step.mem_all]

end Step

namespace Job

/-- The steps of some names are those that the names are of. -/
theorem mem_of_stepsOfNames {names : List String} {wanted : List Step}
    (h : stepsOfNames names = .ok wanted) (step : Step) :
    step ∈ wanted ↔ ∃ name ∈ names, Step.ofName name = .ok step := by
  induction names generalizing wanted with
  | nil =>
    cases h
    simp
  | cons name rest ih =>
    rw [stepsOfNames] at h
    cases hn : Step.ofName name with
    | error failure => simp [hn] at h
    | ok first =>
      cases hr : stepsOfNames rest with
      | error failure => simp [hn, hr] at h
      | ok others =>
        simp only [hn, hr, Except.ok.injEq] at h
        subst h
        simp [ih hr, hn, eq_comm]

/-- Without an unknown name, every name gives its step. -/
theorem exists_stepsOfNames {names : List String} (h : ∀ name ∈ names, Step.IsName name) :
    ∃ wanted, stepsOfNames names = .ok wanted := by
  induction names with
  | nil => exact ⟨[], rfl⟩
  | cons name rest ih =>
    obtain ⟨step, hstep⟩ := h name (by simp)
    obtain ⟨others, hothers⟩ := ih fun n hn => h n (by simp [hn])
    exact ⟨step :: others, by simp [stepsOfNames, hstep, hothers]⟩

/-- The first unknown name is the one that is reported. -/
theorem stepsOfNames_of_unknown {before : List String} (hbefore : ∀ name ∈ before, Step.IsName name)
    {name : String} (hname : ¬ Step.IsName name) (after : List String) :
    stepsOfNames (before ++ name :: after) = .error (.unknownStep name) := by
  induction before with
  | nil => simp [stepsOfNames, Step.ofName_of_not_isName hname]
  | cons first rest ih =>
    obtain ⟨step, hstep⟩ := hbefore first (by simp)
    have hrest := ih fun n hn => hbefore n (by simp [hn])
    simp [stepsOfNames, hstep, hrest]

/-- **A selection** is the part of the catalogue that is chosen, each step made ready for the
setup. -/
theorem eq_of_select {setup : Setup} {names : List String} {jobs : List Job}
    (h : select setup names = .ok jobs) :
    jobs = (Step.all.filter (Step.isChosen names)).map (ofStep setup) := by
  rw [select] at h
  cases hw : stepsOfNames names with
  | error failure => simp [hw] at h
  | ok wanted =>
    simp only [hw, Except.ok.injEq] at h
    subst h
    congr 1
    -- Without names the whole catalogue is chosen, although no step is wanted by name.
    by_cases hempty : names.isEmpty
    · have hall : ∀ step ∈ Step.all, step.isChosen names = true := by simp [Step.isChosen, hempty]
      rw [if_pos hempty, List.filter_eq_self.mpr hall]
    · rw [if_neg hempty]
      refine List.filter_congr fun step _ => ?_
      have hnames : names ≠ [] := by simpa using hempty
      rw [Bool.eq_iff_iff, Step.isChosen_iff, List.contains_iff_mem, mem_of_stepsOfNames hw]
      simp [hnames]

/-- A selection succeeds if every name is the name of a step. -/
theorem select_of_isName (setup : Setup) {names : List String}
    (h : ∀ name ∈ names, Step.IsName name) :
    select setup names = .ok ((Step.all.filter (Step.isChosen names)).map (ofStep setup)) := by
  obtain ⟨wanted, hwanted⟩ := exists_stepsOfNames h
  obtain ⟨jobs, hjobs⟩ : ∃ jobs, select setup names = .ok jobs := ⟨_, by rw [select, hwanted]⟩
  rw [hjobs, eq_of_select hjobs]

/-- A selection fails by its first unknown name. -/
theorem select_of_unknown (setup : Setup) {before : List String}
    (hbefore : ∀ name ∈ before, Step.IsName name) {name : String} (hname : ¬ Step.IsName name)
    (after : List String) :
    select setup (before ++ name :: after) = .error (.unknownStep name) := by
  rw [select, stepsOfNames_of_unknown hbefore hname]

/-- A name of no step gives no job. -/
theorem ofName_of_not_isName (setup : Setup) {name : String} (h : ¬ Step.IsName name) :
    ofName setup name = .error (.unknownStep name) := by
  rw [ofName, Step.ofName_of_not_isName h]
  rfl

/-- A name of a step gives the job of that step. -/
theorem ofName_of_ofName (setup : Setup) {name : String} {step : Step}
    (h : Step.ofName name = .ok step) :
    ofName setup name = .ok (ofStep setup step) := by
  rw [ofName, h]
  rfl

/-- The job of a name is the job of the step of that name. -/
theorem exists_of_ofName {setup : Setup} {name : String} {job : Job}
    (h : ofName setup name = .ok job) :
    ∃ step, Step.ofName name = .ok step ∧ ofStep setup step = job := by
  rw [ofName] at h
  cases hstep : Step.ofName name with
  | error failure => simp [hstep, Except.map] at h
  | ok step => exact ⟨step, rfl, by simpa [hstep, Except.map] using h⟩

/-- A selection by one name is the job of that name. -/
theorem select_singleton (setup : Setup) {name : String} {step : Step}
    (h : Step.ofName name = .ok step) :
    select setup [name] = .ok [ofStep setup step] := by
  rw [select_of_isName setup (by simpa using ⟨step, h⟩), Step.filter_isChosen_singleton h,
    List.map_singleton]

end Job

end CiHarness
