import CiHarness.Text.Pieces

/-!
# The words of the command line

The program has four commands. Flags are set or not set, settings have a value, and a few commands
take the name of a step. Which of them are understood depends on the level: before the command, or
after it. What stands here is said once, and both the reading of arguments and the help texts go by
it.
-/
namespace CiHarness.CommandLine

/-- A command of the program. -/
inductive Verb where
  | run
  | step
  | list
  | preview
  deriving DecidableEq

namespace Verb

/-- All commands in the order in which they are explained. -/
def all : List Verb := [.run, .step, .list, .preview]

/-- A command as it is typed. -/
def word : Verb → String
  | .run => "run"
  | .step => "step"
  | .list => "list"
  | .preview => "show"

/-- The command of a word; commands are not abbreviated. -/
def ofWord? (s : String) : Option Verb := all.find? (·.word == s)

/-- Whether a command takes the name of a step. -/
def takesName : Verb → Bool
  | .step => true
  | .preview => true
  | _ => false

end Verb

/-- The command that an option stands after; none before the command. -/
abbrev Scope := Option Verb

/-- An option without a value. -/
inductive Flag where
  | verbose
  | json
  | report
  | docker
  deriving DecidableEq

/-- An option with a value. -/
inductive Setting where
  | ciDir
  | runtime
  | only
  deriving DecidableEq

/-- An option, or a request for a text. -/
inductive Word where
  | flag (f : Flag)
  | setting (s : Setting)
  | help
  | version
  deriving DecidableEq

namespace Word

/-- The long name of an option. -/
def longName : Word → String
  | .flag .verbose => "verbose"
  | .flag .json => "json"
  | .flag .report => "report"
  | .flag .docker => "docker"
  | .setting .ciDir => "ci-dir"
  | .setting .runtime => "runtime"
  | .setting .only => "only"
  | .help => "help"
  | .version => "version"

/-- The letter of an option that has one. -/
def letter? : Word → Option Char
  | .flag .verbose => some 'v'
  | .help => some 'h'
  | .version => some 'V'
  | _ => none

/-- The options of a scope in the order in which they are explained. -/
def allIn : Scope → List Word
  | none =>
    [.flag .verbose, .flag .json, .flag .docker, .setting .ciDir, .setting .runtime, .help,
      .version]
  | some .run =>
    [.setting .only, .flag .verbose, .flag .json, .flag .report, .flag .docker, .setting .ciDir,
      .setting .runtime, .help]
  | some _ =>
    [.flag .verbose, .flag .json, .flag .docker, .setting .ciDir, .setting .runtime, .help]

/-- The option of a long name; names are not abbreviated. -/
def ofLongName? (scope : Scope) (name : String) : Option Word :=
  (allIn scope).find? (·.longName == name)

/-- The option of a letter. -/
def ofLetter? (scope : Scope) (c : Char) : Option Word :=
  (allIn scope).find? (·.letter? == some c)

end Word

/-- An argument as it is taken at first sight. -/
inductive Token where
  /-- Two hyphens: what comes after them is no option. -/
  | terminator
  /-- A long name, and what stands after an equals sign. -/
  | long (name : String) (value : Option String)
  /-- Letters after one hyphen. -/
  | letters (cs : List Char)
  /-- Anything else; a lone hyphen too. -/
  | plain
  deriving DecidableEq

namespace Token

/-- The token of an argument. -/
def ofText (s : String) : Token :=
  match s.toList with
  | ['-', '-'] => .terminator
  | '-' :: '-' :: cs =>
    match Text.cutFirst '=' cs with
    | some (name, value) => .long (String.ofList name) (some (String.ofList value))
    | none => .long (String.ofList cs) none
  | '-' :: c :: cs => .letters (c :: cs)
  | _ => .plain

end Token

end CiHarness.CommandLine
