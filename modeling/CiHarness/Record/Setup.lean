import CiHarness.Json.Reading
import CiHarness.Step.Job

/-!
# Records of steps and containers

How commands, identities, layouts, mounts, profiles, steps and jobs are written as JSON and read
back. A profile that is read is taken as it is: its conditions are not looked at again.
-/
namespace CiHarness

namespace Path

def toJson (p : Path) : Json := .text p.text

def ofJson? (v : Json) : Option Path := v.asText?.map Path.mk

end Path

namespace Command

def toJson (c : Command) : Json := .texts c.tokens

def ofJson? (v : Json) : Option Command := (v.asList? Json.asText?).map Command.mk

end Command

namespace Identity

def toJson (i : Identity) : Json :=
  .object [("uid", .natural i.uid.toNat), ("gid", .natural i.gid.toNat)]

def ofJson? (v : Json) : Option Identity :=
  match v.members? ["uid", "gid"] with
  | some [some uid, some gid] => do return ⟨← uid.asUInt32?, ← gid.asUInt32?⟩
  | _ => none

end Identity

namespace Layout

def toJson (l : Layout) : Json :=
  .object [("project_root", l.projectRoot.toJson), ("ci_dir", l.ciDir.toJson)]

def ofJson? (v : Json) : Option Layout :=
  match v.members? ["project_root", "ci_dir"] with
  | some [some root, some ciDir] => do return ⟨← Path.ofJson? root, ← Path.ofJson? ciDir⟩
  | _ => none

end Layout

namespace Mount

def toJson (m : Mount) : Json :=
  .object [("host", m.host.toJson), ("container", .text m.container)]

def ofJson? (v : Json) : Option Mount :=
  match v.members? ["host", "container"] with
  | some [some host, some container] => do return ⟨← Path.ofJson? host, ← container.asText?⟩
  | _ => none

end Mount

namespace ProfileKind

def toJson (k : ProfileKind) : Json := .text k.name

/-- The kind of a name. -/
def ofName? (s : String) : Option ProfileKind :=
  [ProfileKind.toolchain, ProfileKind.eda].find? (·.name == s)

def ofJson? (v : Json) : Option ProfileKind := v.asConstant?.bind ofName?

end ProfileKind

namespace Profile

/-- A login shell is written as an array of its two tokens. -/
def shellToJson (shell : String × String) : Json := .texts [shell.1, shell.2]

def shellOfJson? (v : Json) : Option (String × String) :=
  match v with
  | .array [.text shell, .text option] => some (shell, option)
  | _ => none

def toJson (p : Profile) : Json :=
  .object [("kind", p.kind.toJson), ("image", .text p.image), ("workdir", .text p.workdir),
    ("output_dir", .text? p.outputDir), ("mount", p.mount.toJson),
    ("login_shell", p.loginShell.elim .null shellToJson)]

def ofJson? (v : Json) : Option Profile :=
  match v.members? ["kind", "image", "workdir", "output_dir", "mount", "login_shell"] with
  | some [some kind, some image, some workdir, outputDir, some mount, loginShell] => do
    return ⟨← ProfileKind.ofJson? kind, ← image.asText?, ← workdir.asText?,
      ← Json.optional? Json.asText? outputDir, ← Mount.ofJson? mount,
      ← Json.optional? shellOfJson? loginShell⟩
  | _ => none

end Profile

namespace Scenario

def toJson (s : Scenario) : Json := .text s.name

def ofJson? (v : Json) : Option Scenario := v.asConstant?.bind ofName?

end Scenario

namespace Step

/-- The tag of a step in a record. -/
def tag : Step → String
  | .fmt => "fmt"
  | .clippy => "clippy"
  | .test => "test"
  | .build => "build"
  | .compile _ => "compile"
  | .simulate _ => "simulate"

/-- A step is its tag and, if it has one, its scenario. -/
def toJson (step : Step) : Json :=
  match step with
  | .compile s => .object [("kind", .text step.tag), ("scenario", s.toJson)]
  | .simulate s => .object [("kind", .text step.tag), ("scenario", s.toJson)]
  | _ => .object [("kind", .text step.tag)]

/-- The step of a tag and of what stands for its scenario. A step without a scenario allows a null
there. -/
def ofTagged? (tag : String) (scenario : Option Json) : Option Step :=
  let plain (step : Step) : Option Step :=
    match scenario with
    | none => some step
    | some .null => some step
    | some _ => none
  if tag = "fmt" then plain .fmt
  else if tag = "clippy" then plain .clippy
  else if tag = "test" then plain .test
  else if tag = "build" then plain .build
  else if tag = "compile" then (scenario.bind Scenario.ofJson?).map .compile
  else if tag = "simulate" then (scenario.bind Scenario.ofJson?).map .simulate
  else none

/-- A step is read from an object, or from an array of the tag and the scenario. -/
def ofJson? : Json → Option Step
  | .object members =>
    ((Json.member? "kind" members).bind Json.asConstant?).bind fun tag =>
      ofTagged? tag (Json.member? "scenario" members)
  | .array [.text tag, scenario] => ofTagged? tag (some scenario)
  | _ => none

end Step

namespace Job

def toJson (job : Job) : Json :=
  .object [("name", .text job.name), ("step", job.step.toJson), ("command", job.command.toJson),
    ("dir", job.dir.toJson), ("capture", .bool job.capture)]

def ofJson? (v : Json) : Option Job :=
  match v.members? ["name", "step", "command", "dir", "capture"] with
  | some [some name, some step, some command, some dir, some capture] => do
    return ⟨← name.asText?, ← Step.ofJson? step, ← Command.ofJson? command, ← Path.ofJson? dir,
      ← capture.asBool?⟩
  | _ => none

end Job

end CiHarness
