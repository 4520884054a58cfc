import CiHarness.Log.Directive

/-!
# Log filters

A filter is a list of directives. An entry passes if the most specific directive about it lets its
level pass; without a directive about it, it does not pass. A filter is written with commas between
its directives. If one of them is malformed the whole filter is dropped, and the one that goes by
the verbosity alone is used in its place. A filter that would be cut inside of a character is fatal.
-/
namespace CiHarness

/-- Directives; of equally specific ones the last counts. -/
abbrev LogFilter := List Directive

namespace LogFilter

/-- The filter of a text; empty pieces between commas are passed over, and the first faulty one
tells what is wrong. -/
def ofText (s : String) : Except Directive.Fault LogFilter :=
  ((Text.pieces ',' s.toList).filter (!·.isEmpty)).mapM Directive.ofChars

/-- The filter of a verbosity: progress is always told, details only if asked for. -/
def ofVerbosity (verbose : Bool) : LogFilter :=
  [⟨none, none, none, if verbose then Level.debug.rank else Level.info.rank⟩]

/-- A well-formed filter that is asked for, or else that of the verbosity; none if the one that is
asked for cannot even be cut into pieces. -/
def choose (asked : Option String) (verbose : Bool) : Option LogFilter :=
  match asked with
  | none => some (ofVerbosity verbose)
  | some text =>
    match ofText text with
    | .ok filter => some filter
    | .error .malformed => some (ofVerbosity verbose)
    | .error .insideCharacter => none

/-- The more specific of two directives; the second one if they are equally specific. -/
def moreSpecific (best : Option Directive) (d : Directive) : Option Directive :=
  match best with
  | none => some d
  | some b => if d.isLessSpecific b then some b else some d

/-- The directive that counts for an entry. -/
def directiveFor? (f : LogFilter) (e : LogEntry) : Option Directive :=
  (f.filter (·.isAbout e)).foldl moreSpecific none

/-- Whether an entry passes. -/
def admits (f : LogFilter) (e : LogEntry) : Bool :=
  (f.directiveFor? e).any (e.level.rank ≤ ·.bound)

end LogFilter

end CiHarness
