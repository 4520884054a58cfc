import CiHarness.CommandLine.Grammar
import CiHarness.Text.Pieces
import CiHarness.Text.Terminal

/-!
# Help texts

There is one text for the program, one for each of its commands, and one for the help itself.
Options that may also come from the environment are shown with the variable and its present value.
What is typed as it stands is bold, and a heading is underlined too, if the environment asks for
that; without being asked for, no control sequence is shown, not even one out of a variable.
-/
namespace CiHarness.CommandLine

/-- The variables of the environment that the program reads. -/
structure Environment where
  docker : Option String
  ciDir : Option String
  runtime : Option String
  log : Option String
  plain : Option String
  styled : Option String

namespace Environment

def dockerVariable : String := "RETICLE_CI_DOCKER"
def ciDirVariable : String := "RETICLE_CI_DIR"
def runtimeVariable : String := "RETICLE_CI_RUNTIME"
def logVariable : String := "RUST_LOG"
def plainVariable : String := "NO_COLOR"
def styledVariable : String := "CLICOLOR_FORCE"

/-- The variables that have a meaning. -/
def names : List String :=
  [dockerVariable, ciDirVariable, runtimeVariable, logVariable, plainVariable, styledVariable]

/-- The environment in which variables are looked up. -/
def ofLookup (value? : String → Option String) : Environment :=
  ⟨value? dockerVariable, value? ciDirVariable, value? runtimeVariable, value? logVariable,
    value? plainVariable, value? styledVariable⟩

/-- Whether styles are asked for, and not refused; a variable without a value does neither. -/
def wantsStyles (env : Environment) : Bool :=
  env.styled.any (· != "") && !env.plain.any (· != "")

end Environment

/-- What a help text is about. -/
inductive Topic where
  | program
  | verb (v : Verb)
  | help
  deriving DecidableEq

/-- The harness directory that is used if none is given. -/
def defaultCiDir : String := "ci"

/-- The name under which the program is called. -/
def programName : String := "reticle-ci"

/-- What the request for a version shows. -/
def versionText : String := programName ++ " 0.1.0\n"

namespace Topic

/-- A text in the first column, and whether it is typed as it stands. -/
abbrev Label := List (String × Bool)

/-- The number of characters of a label. -/
def width (l : Label) : Nat := (l.map (·.1.length)).foldl (· + ·) 0

/-- What is typed as it stands is bold. -/
def labelText (l : Label) : String :=
  String.join (l.map fun (s, isTyped) => if isTyped then Text.Terminal.bold s else s)

/-- A blank as often as it is asked for. -/
def blanks (n : Nat) : String := String.ofList (List.replicate n ' ')

/-- Rows of two columns, the second of which begins at the same place in every row and in every line
of it. -/
def table (rows : List (Label × String)) : String :=
  let column := (rows.map (width ·.1)).foldl max 0 + 2
  String.join (rows.map fun (label, right) =>
    "  " ++ labelText label ++ blanks (column - width label) ++
      Text.joinWith ("\n" ++ blanks (column + 2)) (Text.split '\n' right) ++ "\n")

/-- A heading. -/
def heading (s : String) : String := Text.Terminal.underlined (s ++ ":")

/-- What a command does. -/
def about : Topic → String
  | .program => "CI harness for the Reticle compiler"
  | .verb .run => "Run CI steps in order, continuing past failures"
  | .verb .step => "Run a single step"
  | .verb .list => "List step names in run order"
  | .verb .preview => "Print the command a step would run, without running it"
  | .help => "Print this message or the help of the given subcommand(s)"

/-- How a command is called: the command itself, and what it takes. -/
def usage : Topic → String × String
  | .program => (programName, "[OPTIONS] <COMMAND>")
  | .verb v =>
    (programName ++ " " ++ v.word, "[OPTIONS]" ++ if v.takesName then " <NAME>" else "")
  | .help => (programName ++ " help", "[COMMAND]...")

/-- The first column of an option. -/
def optionLabel (w : Word) : Label :=
  (match w.letter? with
    | none => [("    ", false)]
    | some c => [("-" ++ c.toString, true), (", ", false)]) ++
    [("--" ++ w.longName, true)] ++
    match w with
    | .setting .ciDir => [(" <CI_DIR>", false)]
    | .setting .runtime => [(" <RUNTIME>", false)]
    | .setting .only => [(" <STEP>", false)]
    | _ => []

/-- A variable of the environment with its value. -/
def origin (name : String) (value : Option String) : String :=
  " [env: " ++ name ++ "=" ++ value.getD "" ++ "]"

/-- The second column of an option. -/
def optionMeaning (env : Environment) : Word → String
  | .flag .verbose => "Enable verbose output"
  | .flag .json => "Emit JSON-formatted log lines"
  | .flag .report => "Print the run result as JSON"
  | .flag .docker =>
    "Run every step inside its container image" ++ origin Environment.dockerVariable env.docker
  | .setting .ciDir =>
    "CI harness directory; its parent must be the project root" ++
      origin Environment.ciDirVariable env.ciDir ++ " [default: " ++ defaultCiDir ++ "]"
  | .setting .runtime =>
    "Container runtime executable" ++ origin Environment.runtimeVariable env.runtime
  | .setting .only => "Steps to run (default: all). Repeatable"
  | .help => "Print help"
  | .version => "Print version"

/-- The options of a scope. -/
def options (env : Environment) (scope : Scope) : String :=
  heading "Options" ++ "\n" ++
    table ((Word.allIn scope).map fun w => (optionLabel w, optionMeaning env w))

/-- The operand of a command and what it means. -/
def operand (name meaning : String) : String :=
  heading "Arguments" ++ "\n" ++ table [([(name, false)], meaning)]

/-- What is explained before the options. -/
def operands : Topic → String
  | .program =>
    let rows := Verb.all.map (fun v => (v.word, (Topic.verb v).about)) ++
      [("help", Topic.help.about)]
    heading "Commands" ++ "\n" ++
      table (rows.map fun (word, about) => ([(word, true)], about)) ++ "\n"
  | .verb .step => operand "<NAME>" "Step name, e.g. `clippy` or `sim:fsm`" ++ "\n"
  | .verb .preview => operand "<NAME>" "Step name, e.g. `compile:register`" ++ "\n"
  | .verb _ => ""
  | .help => operand "[COMMAND]..." "Print help for the subcommand(s)"

/-- The help text of a topic with its styles. -/
def styledText (env : Environment) (t : Topic) : String :=
  t.about ++ "\n\n" ++ heading "Usage" ++ " " ++ Text.Terminal.bold t.usage.1 ++ " " ++ t.usage.2 ++
    "\n\n" ++ t.operands ++
    match t with
    | .program => options env none
    | .verb v => options env (some v)
    | .help => ""

/-- The help text of a topic as it is shown. -/
def text (env : Environment) (t : Topic) : String :=
  if env.wantsStyles then t.styledText env else Text.Terminal.withoutControls (t.styledText env)

end Topic

end CiHarness.CommandLine
