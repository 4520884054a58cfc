import CiHarness.Failure
import CiHarness.Text.Pieces

/-!
# Complaints

What the program says when it gives up: what could not be done, and then the causes below it, each
indented. More than one cause are numbered. Lines after the first one of a cause are indented so
that they stay below it.
-/
namespace CiHarness.CommandLine

/-- Why the program ends without success. -/
inductive Complaint where
  | environment (failure : Failure)
  | selection (failure : Failure)
  | step (name : String) (failure : Failure)
  | steps (count : Nat)
  deriving DecidableEq

namespace Complaint

/-- A failure and the cause below it. -/
def chain (f : Failure) : List String := f.message :: f.cause?.toList.map (·.message)

/-- What could not be done. -/
def headline : Complaint → String
  | .environment _ => "Failed to resolve CI environment"
  | .selection failure => failure.message
  | .step name _ => "Step '" ++ name ++ "' failed"
  | .steps count => toString count ++ " step(s) failed"

/-- The causes below the headline. -/
def causes : Complaint → List String
  | .environment failure => chain failure
  | .selection failure => (chain failure).tail
  | .step _ failure => chain failure
  | .steps _ => []

/-- A cause with its mark in front, all its further lines indented as far. -/
def indented (mark : String) (cause : String) : String :=
  let blanks := List.replicate mark.length ' '
  "\n" ++ mark ++
    String.ofList (cause.toList.flatMap fun c => if c = '\n' then c :: blanks else [c])

/-- The number of a cause, at the right of five columns. -/
def numbered (i : Nat) : String :=
  let digits := Nat.toDigits 10 i
  String.ofList (List.replicate (5 - digits.length) ' ' ++ digits) ++ ": "

/-- The causes as they are written. -/
def listed : List String → String
  | [] => ""
  | [cause] => "\n\nCaused by:" ++ indented "    " cause
  | causes =>
    "\n\nCaused by:" ++
      String.join ((causes.zipIdx).map fun (cause, i) => indented (numbered i) cause)

/-- The whole complaint, without the new line after it. -/
def text (c : Complaint) : String := "Error: " ++ c.headline ++ listed c.causes

end Complaint

end CiHarness.CommandLine
