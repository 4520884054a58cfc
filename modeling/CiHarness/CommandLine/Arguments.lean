import CiHarness.CommandLine.Help

/-!
# Reading arguments

Arguments are read from left to right, first those before the command, then those after it. Each
level keeps what was given at it; a flag or a setting may be given once at each level, and only the
selection of steps may be repeated. Reading stops at the first request for a text and at the first
mistake, whichever comes first.

A setting whose value is an argument of its own is looked at no sooner than the next option of the
same level, or the end of it; so a request for help after the command still comes before a mistake
in the last setting before the command.
-/
namespace CiHarness.CommandLine

/-- Why reading stops: a text is asked for, or the arguments are not understood. -/
inductive Stop where
  | help (topic : Topic)
  | version
  | misuse
  deriving DecidableEq

/-- What was given at one level. -/
structure Given where
  flags : List Flag
  settings : List (Setting × String)
  names : List String
  deriving DecidableEq

namespace Given

/-- Nothing was given. -/
def nothing : Given := ⟨[], [], []⟩

def hasFlag (g : Given) (f : Flag) : Bool := g.flags.contains f

/-- The value of a setting. -/
def value? (g : Given) (s : Setting) : Option String := g.settings.lookup s

/-- All values of a setting in their order. -/
def values (g : Given) (s : Setting) : List String :=
  (g.settings.filter (·.1 = s)).map (·.2)

/-- A flag is given, for the first time. -/
def addFlag (g : Given) (f : Flag) : Except Stop Given :=
  if g.hasFlag f then .error .misuse else .ok { g with flags := f :: g.flags }

/-- A setting is given. The harness directory must not be empty, and only the selection may be given
again. -/
def addSetting (g : Given) (s : Setting) (value : String) : Except Stop Given :=
  if s = .ciDir ∧ value = "" then .error .misuse
  else if s ≠ .only ∧ (g.value? s).isSome then .error .misuse
  else .ok { g with settings := g.settings ++ [(s, value)] }

/-- A name is given to a command that takes one and has none yet. -/
def addName (g : Given) (v : Verb) (name : String) : Except Stop Given :=
  if v.takesName && g.names.isEmpty then .ok { g with names := [name] } else .error .misuse

end Given

/-- A level that is being read: what was given so far, and the last setting if it was not looked at
yet. -/
structure Level where
  given : Given
  pending : Option (Setting × String)
  deriving DecidableEq

namespace Level

/-- A level of which nothing was read. -/
def fresh : Level := ⟨.nothing, none⟩

/-- The last setting is looked at. -/
def settled (l : Level) : Except Stop Given :=
  match l.pending with
  | none => .ok l.given
  | some (s, value) => l.given.addSetting s value

/-- Something is given after the last setting was looked at. -/
def giving (l : Level) (add : Given → Except Stop Given) : Except Stop Level :=
  match l.settled with
  | .error stop => .error stop
  | .ok g => (add g).map (⟨·, none⟩)

/-- An option without a value is read. -/
def takeWord (scope : Scope) (l : Level) : Word → Except Stop Level
  | .flag f => l.giving (·.addFlag f)
  | .help => l.giving fun _ => .error (.help (scope.elim .program .verb))
  | .version => l.giving fun _ => .error .version
  | .setting _ => .error .misuse

/-- Letters after one hyphen are read one after another. -/
def takeLetters (scope : Scope) : List Char → Level → Except Stop Level
  | [], l => .ok l
  | c :: cs, l =>
    match Word.ofLetter? scope c with
    | none => .error .misuse
    | some w =>
      match l.takeWord scope w with
      | .error stop => .error stop
      | .ok l => takeLetters scope cs l

/-- Names are read one after another. -/
def takeNames (v : Verb) : List String → Level → Except Stop Level
  | [], l => .ok l
  | name :: rest, l =>
    match l.giving (·.addName v name) with
    | .error stop => .error stop
    | .ok l => takeNames v rest l

/-- A level is read up to the command, or to the end, and the arguments from the command on are left
over. -/
def read (scope : Scope) : List String → Level → Except Stop (Level × List String)
  | [], l => .ok (l, [])
  | arg :: rest, l =>
    match Token.ofText arg with
    | .terminator =>
      match scope with
      | none => .error .misuse
      | some v => (takeNames v rest l).map (·, [])
    | .plain =>
      match scope with
      | none => .ok (l, arg :: rest)
      | some v =>
        match l.giving (·.addName v arg) with
        | .error stop => .error stop
        | .ok l => read scope rest l
    | .letters cs =>
      match takeLetters scope cs l with
      | .error stop => .error stop
      | .ok l => read scope rest l
    | .long name value =>
      match Word.ofLongName? scope name, value with
      | some (.setting s), some value =>
        match l.giving (·.addSetting s value) with
        | .error stop => .error stop
        | .ok l => read scope rest l
      | some (.setting s), none =>
        match rest with
        | [] => .error .misuse
        | value :: rest =>
          if Token.ofText value = .plain then
            match l.settled with
            | .error stop => .error stop
            | .ok g => read scope rest ⟨g, some (s, value)⟩
          else .error .misuse
      | some w, none =>
        match l.takeWord scope w with
        | .error stop => .error stop
        | .ok l => read scope rest l
      | _, _ => .error .misuse

/-- A level that was read to its end. A harness directory from the environment must not be empty
either, and it counts at every level that does not give one. -/
def closed (env : Environment) (l : Level) : Except Stop Given :=
  match l.settled with
  | .error stop => .error stop
  | .ok g =>
    if (g.value? .ciDir).isNone ∧ env.ciDir = some "" then .error .misuse else .ok g

end Level

end CiHarness.CommandLine
