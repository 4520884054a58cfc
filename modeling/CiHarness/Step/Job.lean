import CiHarness.Step.Catalogue

/-!
# Jobs

A job is a step made ready for a setup: the command as it is run, the directory it is started from
and whether its output is kept. Names select jobs; the jobs always come in catalogue order, each at
most once.
-/
namespace CiHarness

/-- A step made ready to run. -/
structure Job where
  name : String
  step : Step
  command : Command
  dir : Path
  capture : Bool
  deriving DecidableEq

namespace Job

/-- The job of a step under a setup. -/
def ofStep (setup : Setup) (step : Step) : Job where
  name := step.name
  step := step
  command := setup.placed (step.command setup) step.kind
  dir := setup.directory step.kind
  capture := step.isJudgedByOutput

/-- The steps of some names; the first name of no step is reported. -/
def stepsOfNames : List String → Except Failure (List Step)
  | [] => .ok []
  | n :: rest =>
    match Step.ofName n with
    | .error failure => .error failure
    | .ok step =>
      match stepsOfNames rest with
      | .error failure => .error failure
      | .ok steps => .ok (step :: steps)

/-- The jobs of the named steps in catalogue order; without names, of all steps. -/
def select (setup : Setup) (names : List String) : Except Failure (List Job) :=
  match stepsOfNames names with
  | .error failure => .error failure
  | .ok wanted =>
    let chosen := if names.isEmpty then Step.all else Step.all.filter (wanted.contains ·)
    .ok (chosen.map (ofStep setup))

/-- The job of one named step. -/
def ofName (setup : Setup) (name : String) : Except Failure Job :=
  (Step.ofName name).map (ofStep setup)

end Job

end CiHarness
