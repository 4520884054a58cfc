import CiHarness.Container.Identity
import CiHarness.Container.Profile

/-!
# Commands

A command is a list of tokens, the first of which names the program. Wrapped for a container it is
the same list after a fixed invocation of the container runtime, which depends on the identity, the
runtime and the profile, and not on the command.
-/
namespace CiHarness

/-- A program and its arguments. -/
structure Command where
  tokens : List String
  deriving DecidableEq

namespace Command

/-- The first token. -/
def program? (c : Command) : Option String := c.tokens.head?

/-- All tokens but the first. -/
def arguments (c : Command) : List String := c.tokens.tail

def isEmpty (c : Command) : Bool := c.tokens.isEmpty

def size (c : Command) : Nat := c.tokens.length

/-- The tokens with a space between each two; tokens are not quoted. -/
def display (c : Command) : String := Text.join ' ' c.tokens

end Command

/-- The invocation of a container runtime that starts a container of a profile. -/
def Profile.invocation (p : Profile) (identity : Identity) (runtime : String) : List String :=
  [runtime, "run", "--rm", "--pid=host", "--user", identity.userOption, "-v",
    p.mount.volumeOption, "-w", p.workdir, p.image] ++
    p.loginShell.elim [] fun (shell, option) => [shell, option]

/-- The command as it is run: unchanged on the host, after the invocation in a container. -/
def Command.placed (bare : Command) (identity : Identity) (runtime : String) (p : Profile)
    (containerized : Bool) : Command :=
  if containerized then ⟨p.invocation identity runtime ++ bare.tokens⟩ else bare

end CiHarness
