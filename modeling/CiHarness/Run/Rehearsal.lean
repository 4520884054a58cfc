import CiHarness.Run.Launcher

/-!
# Rehearsals

A launcher that starts nothing and answers from a list of rules. The first rule that matches a call
answers it, and may be used up by that; a call without a rule ends well and writes nothing. It shows
what the harness does with each kind of answer.
-/
namespace CiHarness

/-- A rule of a rehearsal. -/
structure Rule where
  /-- A token that the command must have. -/
  token : Option String
  /-- How many calls the rule may still answer; a count below zero is never used up. -/
  times : Option Int
  /-- The error that is answered in place of an output. -/
  error : Option StartError
  exitCode : Int32
  stdout : Option String
  /-- The text is given even without capture. -/
  forced : Bool

namespace Rule

/-- A rule matches a call with its token, unless it is used up. -/
def isMatch (r : Rule) (call : Call) : Bool :=
  r.token.all (call.command.tokens.contains ·) && r.times != some 0

/-- A rule after its use. -/
def used (r : Rule) : Rule := { r with times := r.times.map (· - 1) }

/-- The answer of a rule. -/
def answer (r : Rule) (call : Call) : Answer :=
  match r.error with
  | some e => ⟨.error e, [], []⟩
  | none => ⟨.ok ⟨r.exitCode, if call.capture || r.forced then r.stdout else none⟩, [], []⟩

end Rule

namespace Rehearsal

/-- The answer of the first matching rule, and the rules after it. -/
def answer (call : Call) : List Rule → Answer × List Rule
  | [] => (⟨.ok ⟨0, if call.capture then some "" else none⟩, [], []⟩, [])
  | r :: rules =>
    if r.isMatch call then (r.answer call, r.used :: rules)
    else
      let (a, rest) := answer call rules
      (a, r :: rest)

/-- The launcher of a rehearsal; no time passes in it. -/
def launcher : Launcher (List Rule) where
  launch call rules := answer call rules
  clock _ := 0

end Rehearsal

end CiHarness
