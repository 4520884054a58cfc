import CiHarness.Proofs.CommandLine.Run

/-!
# Invocations that are refused

An invocation that was understood is refused if its setup cannot be made or if a name in it is no
step's, and then nothing is started and nothing is printed: all names are looked at before the first
step runs. The setup is complained about before any name, and of the names the first unknown one. If
the filter for the log is fatal, nothing is done either, but then there is no complaint. The main
statement is `respond_refused`.
-/
namespace CiHarness

variable {σ : Type}

namespace CommandLine

/-- The harness directory of a project at `/proj` is asked for by the environment, and maybe a
filter. -/
def Environment.sample (log : Option String) : Environment where
  docker := none
  ciDir := some "/proj/ci"
  runtime := none
  log := log
  plain := none
  styled := none

/-- The names of steps that a task is given, in their order. -/
def Task.names : Task → List String
  | .run only _ => only
  | .step name => [name]
  | .list => []
  | .preview name => [name]

namespace Workplace

/-- Printed lines are shown whatever is shown of the log. -/
@[simp] theorem showing_printing (lines : List String) (isShown : LogEntry → Bool) :
    (printing lines).showing isShown = printing lines := by
  rw [Trace.showing, List.filter_eq_self, printing]
  simp

@[simp] theorem calls_printing (lines : List String) : (printing lines).calls = [] := by
  simp [Trace.calls, printing, List.filterMap_map]

variable (w : Workplace σ) {i : Invocation} (s : σ)

/-- Without a setup, everything but the list of steps is given up. -/
theorem perform_of_setup_error (hlist : i.task ≠ .list) {failure : Failure}
    (h : w.setup i = .error failure) :
    w.perform i s = ⟨some (.environment failure), [], s⟩ := by
  rw [perform]
  cases htask : i.task with
  | list => exact absurd htask hlist
  | _ => simp only [h]

/-- In a setup that is made, what is performed is the task. -/
theorem perform_of_setup_ok (hlist : i.task ≠ .list) {setup : Setup} (h : w.setup i = .ok setup) :
    w.perform i s =
      let ran := w.performIn setup i.task s
      ⟨ran.value, .logged (.setupResolved setup) :: ran.trace, ran.state⟩ := by
  rw [perform]
  cases htask : i.task with
  | list => exact absurd htask hlist
  | _ => simp only [h]

/-- In a setup, a task is given up by the first name that is no step's. -/
theorem performIn_of_unknown (setup : Setup) {task : Task} {before after : List String}
    {name : String} (htask : task.names = before ++ name :: after)
    (hbefore : ∀ n ∈ before, Step.IsName n)
    (hname : ¬ Step.IsName name) :
    w.performIn setup task s = ⟨some (.selection (.unknownStep name)), [], s⟩ := by
  have hsingle {given : String} (h : [given] = before ++ name :: after) : given = name := by
    cases before with
    | nil => exact (List.cons.inj h).1
    | cons first rest => simp at h
  cases task with
  | run only report =>
    subst htask
    exact w.performRun_of_unknown setup report s hbefore hname after
  | list => simp [Task.names] at htask
  | step given =>
    obtain rfl := hsingle htask
    simp only [performIn, performStep, Job.ofName_of_not_isName setup hname]
  | preview given =>
    obtain rfl := hsingle htask
    simp only [performIn, performPreview, Job.ofName_of_not_isName setup hname]

theorem perform_of_unknown {setup : Setup} (h : w.setup i = .ok setup) {before after : List String}
    {name : String} (htask : i.task.names = before ++ name :: after)
    (hbefore : ∀ n ∈ before, Step.IsName n)
    (hname : ¬ Step.IsName name) :
    w.perform i s = ⟨some (.selection (.unknownStep name)), [.logged (.setupResolved setup)],
      s⟩ := by
  have hlist : i.task ≠ .list := fun hlist => by simp [hlist, Task.names] at htask
  rw [w.perform_of_setup_ok s hlist h, w.performIn_of_unknown s setup htask hbefore hname]

/-- There is nothing to complain about if the setup is made and the task is performed without
complaint. -/
theorem value_perform_eq_none_iff (hlist : i.task ≠ .list) :
    (w.perform i s).value = none ↔
      ∃ setup, w.setup i = .ok setup ∧ (w.performIn setup i.task s).value = none := by
  cases hsetup : w.setup i with
  | error failure => simp [w.perform_of_setup_error s hlist hsetup]
  | ok setup => simp [w.perform_of_setup_ok s hlist hsetup]

/-- A preview starts nothing. -/
theorem perform_preview {name : String} (h : i.task = .preview name) :
    (w.perform i s).trace.calls = [] ∧ (w.perform i s).state = s := by
  have hlist : i.task ≠ .list := by simp [h]
  cases hsetup : w.setup i with
  | error failure => simp [w.perform_of_setup_error s hlist hsetup]
  | ok setup =>
    rw [w.perform_of_setup_ok s hlist hsetup, h]
    cases hjob : Job.ofName setup name <;> simp [performIn, performPreview, hjob]

/-- Whatever an invocation is refused for, it is complained about, and nothing was started or
printed. -/
theorem perform_of_refused (hlist : i.task ≠ .list)
    (h : (∃ failure, w.setup i = .error failure) ∨ ∃ name ∈ i.task.names, ¬ Step.IsName name) :
    let ran := w.perform i s
    ran.value ≠ none ∧ ran.trace.calls = [] ∧ ran.trace.stdout = [] ∧ ran.state = s := by
  cases hsetup : w.setup i with
  | error failure =>
    rw [w.perform_of_setup_error s hlist hsetup]
    simp
  | ok setup =>
    obtain ⟨failure, hfailure⟩ | hunknown := h
    · simp [hsetup] at hfailure
    · obtain ⟨before, name, after, htask, hbefore, hname⟩ := Step.exists_first_unknown hunknown
      rw [w.perform_of_unknown s hsetup htask hbefore hname]
      simp

variable {env : Environment} {args : List String}

/-- With a filter that is not fatal, what is answered is what was performed. -/
theorem respond_of_filter (h : Invocation.ofArguments env args = .ok i) {filter : LogFilter}
    (hfilter : i.logFilter? env = some filter) :
    w.respond env args s =
      ⟨.ofComplaint (w.perform i s).value, (w.perform i s).trace.showing filter.admits, i.json,
      (w.perform i s).state⟩ := by
  simp only [respond, h, answer, hfilter]

/-- By a fatal filter, the program breaks off before it does anything. -/
theorem respond_of_fatal (h : Invocation.ofArguments env args = .ok i)
    (hfilter : i.logFilter? env = none) :
    w.respond env args s = ⟨.aborted, [], false, s⟩ := by
  simp only [respond, h, answer, hfilter]

/-- The program ends with exit code 0 if the filter is not fatal and there is nothing to complain
about. -/
theorem exitCode_respond_eq_zero_iff (h : Invocation.ofArguments env args = .ok i) :
    (w.respond env args s).conclusion.exitCode = 0 ↔ i.logFilter? env ≠ none ∧
      (w.perform i s).value = none := by
  cases hfilter : i.logFilter? env with
  | none => simp [w.respond_of_fatal s h hfilter, Conclusion.exitCode]
  | some filter => simp [w.respond_of_filter s h hfilter, Conclusion.exitCode_eq_zero_iff]

/-- **What an invocation is refused for, and that nothing was done by then.** Every invocation that
is understood, but for the list of steps, is refused if its setup fails or if any of its names is
unknown: no program is called, nothing is written to standard output, and the exit code is 1 exactly
if the filter for the log is not fatal. With such a filter, the complaint is about the setup
whenever that fails, and otherwise about the first unknown name as it was given. A preview starts
nothing in any case, and the steps are listed whatever the files are. -/
theorem respond_refused (h : Invocation.ofArguments env args = .ok i) :
    let r := w.respond env args s
    (i.task ≠ .list →
      ((∃ failure, w.setup i = .error failure) ∨ ∃ name ∈ i.task.names, ¬ Step.IsName name) →
      r.trace.calls = [] ∧ r.trace.stdout = [] ∧ r.state = s ∧
        (r.conclusion.exitCode = 1 ↔ i.logFilter? env ≠ none)) ∧
    (i.logFilter? env ≠ none →
      (∀ failure, i.task ≠ .list → w.setup i = .error failure →
        r.conclusion = .failed (.environment failure)) ∧
      (∀ setup before name after, w.setup i = .ok setup → i.task.names = before ++ name :: after →
        (∀ n ∈ before, Step.IsName n) → ¬ Step.IsName name →
        r.conclusion = .failed (.selection (.unknownStep name))) ∧
      (i.task = .list → r.conclusion = .succeeded ∧ r.state = s ∧
        r.trace = Step.all.map fun step => .printed (step.name ++ "\n"))) ∧
    (∀ name, i.task = .preview name → r.trace.calls = [] ∧ r.state = s) := by
  intro r
  cases hfilter : i.logFilter? env with
  | none =>
    have hr : r = ⟨.aborted, [], false, s⟩ := w.respond_of_fatal s h hfilter
    rw [hr]
    simp [Conclusion.exitCode]
  | some filter =>
    have hr : r = ⟨.ofComplaint (w.perform i s).value, (w.perform i s).trace.showing filter.admits,
        i.json, (w.perform i s).state⟩ := w.respond_of_filter s h hfilter
    refine ⟨?refused, fun _ => ⟨?setup, ?unknown, ?listed⟩, ?preview⟩
    case refused =>
      intro hlist hrefused
      obtain ⟨hvalue, hcalls, hstdout, hstate⟩ := w.perform_of_refused s hlist hrefused
      rw [hr]
      simp [hcalls, hstdout, hstate, Conclusion.exitCode_eq_one_iff, hvalue]
    case setup =>
      intro failure hlist hsetup
      rw [hr, w.perform_of_setup_error s hlist hsetup]
      rfl
    case unknown =>
      intro setup before name after hsetup htask hbefore hname
      rw [hr, w.perform_of_unknown s hsetup htask hbefore hname]
      rfl
    case listed =>
      intro hlist
      have hperform : w.perform i s = performList s := by simp only [perform, hlist]
      rw [hr, hperform, performList, showing_printing, printing, List.map_map]
      exact ⟨rfl, rfl, rfl⟩
    case preview =>
      intro name hname
      obtain ⟨hcalls, hstate⟩ := w.perform_preview s hname
      rw [hr]
      simp [hcalls, hstate]

/-- Of two unknown names after a known one the first is complained about, and the known one is not
run. -/
theorem respond_refused_between_names :
    let args := ["run", "--only", "fmt", "--only=nope", "--only", ""]
    let r := (sample []).respond (.sample (some "debug")) args ()
    r.conclusion = .failed (.selection (.unknownStep "nope")) ∧ r.conclusion.exitCode = 1 ∧
      r.trace.calls = [] ∧ r.trace.stdout = [] := by
  intro args r
  have hi : Invocation.ofArguments (.sample (some "debug")) args =
      .ok ⟨false, false, false, ⟨"/proj/ci"⟩, none, .run ["fmt", "nope", ""] false⟩ := by decide
  have hunknown : ¬ Step.IsName "nope" := by decide
  obtain ⟨hrefused, htold, -⟩ := respond_refused (sample []) () hi
  obtain ⟨hcalls, hstdout, -, hexit⟩ := hrefused (by decide) (Or.inr ⟨"nope", by decide, hunknown⟩)
  have hconclusion :=
    (htold (by decide)).2.1 (Setup.sample false) ["fmt"] "nope" [""] (by decide) rfl
    (by decide) hunknown
  exact ⟨hconclusion, hexit.mpr (by decide), hcalls, hstdout⟩

/-- By a filter that would be cut inside of its first character, an unknown name is not complained
about, and the steps are not listed. The code 101 is that of a program whose panics unwind; where a
panic aborts, there is no exit code, and no complaint either. -/
theorem respond_aborted_by_filter :
    let env := Environment.sample (some "\u2003[s]")
    let refused := (sample []).respond env ["run", "--only", "fmt", "--only", "nope"] ()
    let listed := (sample []).respond env ["list"] ()
    ¬ Step.IsName "nope" ∧ refused.conclusion = .aborted ∧ refused.conclusion.exitCode = 101 ∧
      listed.conclusion = .aborted ∧ listed.trace = [] := by
  decide

end Workplace

end CommandLine

end CiHarness
