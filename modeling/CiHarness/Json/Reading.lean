import CiHarness.Json.Basic

/-!
# Reading values out of JSON

A record is read by name from an object, where unknown members are passed over, or by position from
an array with exactly one item for each member. A constant is a text, or an object whose one member
has that name and the value null. A number is read as a machine word if it has no decimal places and
lies in the word's range. Readers give nothing for a value that they refuse.
-/
namespace CiHarness.Json

/-- The member of an object with a name; for an absent one, nothing. -/
def member? (name : String) (members : List (String × Json)) : Option Json :=
  members.lookup name

/-- The members of a record in the order of their names, from an object by name or from an array by
position. Only an object may lack some. -/
def members? (names : List String) : Json → Option (List (Option Json))
  | .object members => some (names.map (member? · members))
  | .array items => if items.length = names.length then some (items.map some) else none
  | _ => none

def asText? : Json → Option String
  | .text s => some s
  | _ => none

def asBool? : Json → Option Bool
  | .bool b => some b
  | _ => none

/-- A whole number: one without decimal places. -/
def asInteger? : Json → Option Int
  | .number i 0 => some i
  | _ => none

def asUInt32? (v : Json) : Option UInt32 :=
  v.asInteger?.bind fun i =>
    if 0 ≤ i ∧ i < Int.pow 2 32 then some (UInt32.ofNat i.toNat) else none

def asUInt64? (v : Json) : Option UInt64 :=
  v.asInteger?.bind fun i =>
    if 0 ≤ i ∧ i < Int.pow 2 64 then some (UInt64.ofNat i.toNat) else none

def asInt32? (v : Json) : Option Int32 :=
  v.asInteger?.bind fun i =>
    if -Int.pow 2 31 ≤ i ∧ i < Int.pow 2 31 then some (Int32.ofInt i) else none

/-- A list whose items are all read. -/
def asList? {α : Type} (read : Json → Option α) : Json → Option (List α)
  | .array items => items.mapM read
  | _ => none

/-- A member that may be absent or null. -/
def optional? {α : Type} (read : Json → Option α) : Option Json → Option (Option α)
  | none => some none
  | some .null => some none
  | some v => (read v).map some

/-- The name of a constant. -/
def asConstant? : Json → Option String
  | .text s => some s
  | .object [(name, .null)] => some name
  | _ => none

end CiHarness.Json
