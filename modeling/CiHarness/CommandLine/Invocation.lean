import CiHarness.CommandLine.Arguments
import CiHarness.Path

/-!
# Invocations

An invocation is what the arguments and the environment ask for together. What is given after the
command counts before what is given in front of it, and both before the environment.
-/
namespace CiHarness.CommandLine

/-- What is to be done. -/
inductive Task where
  | run (only : List String) (report : Bool)
  | step (name : String)
  | list
  | preview (name : String)
  deriving DecidableEq

/-- A request that was understood. -/
structure Invocation where
  verbose : Bool
  json : Bool
  containerized : Bool
  ciDir : Path
  runtime : Option String
  task : Task
  deriving DecidableEq

/-- The texts of a variable that say no, in either case. -/
def denials : List String := ["", "n", "no", "f", "false", "off", "0"]

/-- A variable says yes if it is set to anything but a denial. -/
def isAffirmed (value : Option String) : Bool :=
  value.any fun s => !denials.contains (String.ofList (s.toList.map Char.toLower))

namespace Invocation

/-- The task of a command with what was given after it. A command that takes a name needs it. -/
def taskOf (v : Verb) (g : Given) : Except Stop Task :=
  match v, g.names with
  | .run, _ => .ok (.run (g.values .only) (g.hasFlag .report))
  | .list, _ => .ok .list
  | .step, [name] => .ok (.step name)
  | .preview, [name] => .ok (.preview name)
  | _, _ => .error .misuse

/-- Both levels and the environment taken together. -/
def combine (env : Environment) (outer inner : Given) (task : Task) : Invocation where
  verbose := inner.hasFlag .verbose || outer.hasFlag .verbose
  json := inner.hasFlag .json || outer.hasFlag .json
  containerized := inner.hasFlag .docker || outer.hasFlag .docker || isAffirmed env.docker
  ciDir := ⟨(((inner.value? .ciDir).or (outer.value? .ciDir)).or env.ciDir).getD defaultCiDir⟩
  runtime := ((inner.value? .runtime).or (outer.value? .runtime)).or env.runtime
  task := task

/-- The topic of a request for help by command. -/
def helpOn : List String → Stop
  | [] => .help .program
  | [word] =>
    if word = "help" then .help .help
    else (Verb.ofWord? word).elim .misuse fun v => .help (.verb v)
  | _ => .misuse

/-- The invocation of a command, after the arguments in front of it. -/
def ofCommand (env : Environment) (outer : Level) (v : Verb) (args : List String) :
    Except Stop Invocation := do
  let (inner, _) ← Level.read (some v) args .fresh
  let inner ← inner.closed env
  let task ← taskOf v inner
  let outer ← outer.closed env
  return combine env outer inner task

/-- The invocation of arguments in an environment. -/
def ofArguments (env : Environment) (args : List String) : Except Stop Invocation := do
  let (outer, rest) ← Level.read none args .fresh
  match rest with
  | [] => throw .misuse
  | word :: rest =>
    if word = "help" then throw (helpOn rest)
    else
      match Verb.ofWord? word with
      | none => throw .misuse
      | some v => ofCommand env outer v rest

end Invocation

end CiHarness.CommandLine
