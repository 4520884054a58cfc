/-!
# JSON values

Reports, step configurations and log lines are JSON. A number is kept as its digits and the count
of its decimal places, so that `1` and `1.0` stay apart; an object keeps the order of its members.
-/
namespace CiHarness

/-- A JSON value. -/
inductive Json where
  | null
  | bool (b : Bool)
  | number (digits : Int) (places : Nat)
  | text (s : String)
  | array (items : List Json)
  | object (members : List (String × Json))

namespace Json

instance : Inhabited Json := ⟨.null⟩

/-- A whole number, written without decimal places. -/
def integer (i : Int) : Json := .number i 0

/-- A whole number that is not negative. -/
def natural (n : Nat) : Json := .integer n

/-- A list of texts. -/
def texts (ss : List String) : Json := .array (ss.map .text)

/-- A text, or null if there is none. -/
def text? (s : Option String) : Json := s.elim .null .text

end Json

end CiHarness
