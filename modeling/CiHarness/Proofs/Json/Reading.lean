import CiHarness.Json.Reading

/-!
# JSON values read back

What was written for a value of one kind is read as that value: texts, switches, numbers in the
range of a machine word, lists, and members that may be null. A record is read by the names of its
members, so a written object is read back in only one way if no two of its members share a name.
-/
namespace CiHarness.Json

/-- No object in a JSON value has two members of one name, so that all readers find the same one. -/
inductive Unambiguous : Json → Prop where
  | null : Unambiguous .null
  | bool (b : Bool) : Unambiguous (.bool b)
  | number (digits : Int) (places : Nat) : Unambiguous (.number digits places)
  | text (s : String) : Unambiguous (.text s)
  | array {items : List Json} (h : ∀ v ∈ items, Unambiguous v) : Unambiguous (.array items)
  | object {members : List (String × Json)} (hnames : (members.map (·.1)).Nodup)
      (h : ∀ m ∈ members, Unambiguous m.2) : Unambiguous (.object members)

attribute [simp] Unambiguous.null Unambiguous.bool Unambiguous.number Unambiguous.text

@[simp] theorem unambiguous_array_iff {items : List Json} :
    Unambiguous (.array items) ↔ ∀ v ∈ items, Unambiguous v :=
  ⟨fun h => by cases h; assumption, .array⟩

@[simp] theorem unambiguous_object_iff {members : List (String × Json)} :
    Unambiguous (.object members) ↔ (members.map (·.1)).Nodup ∧ ∀ m ∈ members, Unambiguous m.2 :=
  ⟨fun h => by cases h; exact ⟨‹_›, ‹_›⟩, fun h => .object h.1 h.2⟩

@[simp] theorem unambiguous_integer (i : Int) : Unambiguous (integer i) := .number i 0

@[simp] theorem unambiguous_natural (n : Nat) : Unambiguous (natural n) := .number n 0

@[simp] theorem unambiguous_texts (ss : List String) : Unambiguous (texts ss) := by
  simp [texts]

@[simp] theorem unambiguous_text? (s : Option String) : Unambiguous (text? s) := by
  cases s <;> simp [text?]

/-- A member that may be null is unambiguous if it is so when it is there. -/
theorem unambiguous_elim {α : Type} {write : α → Json} (h : ∀ a, Unambiguous (write a))
    (o : Option α) :
    Unambiguous (o.elim .null write) := by
  cases o with
  | none => exact .null
  | some a => exact h a

/-! ## Members by name -/

@[simp] theorem member?_nil (name : String) : member? name [] = none := rfl

@[simp] theorem member?_cons_self (name : String) (v : Json) (members : List (String × Json)) :
    member? name ((name, v) :: members) = some v := by simp [member?]

@[simp] theorem member?_cons_of_ne {name other : String} (h : name ≠ other) (v : Json)
    (members : List (String × Json)) :
    member? name ((other, v) :: members) = member? name members := by
  have hne : (name == other) = false := by simpa using h
  simp [member?, List.lookup_cons, hne]

/-- A member is found after members of other names. -/
theorem member?_append_of_not_mem {name : String} {front : List (String × Json)}
    (h : name ∉ front.map (·.1)) (back : List (String × Json)) :
    member? name (front ++ back) = member? name back := by
  induction front with
  | nil => rfl
  | cons m front ih =>
    simp only [List.map_cons, List.mem_cons, not_or] at h
    rw [List.cons_append, member?_cons_of_ne h.1, ih h.2]

@[simp] theorem members?_object (names : List String) (members : List (String × Json)) :
    (object members).members? names = some (names.map (member? · members)) := rfl

/-! ## Values of one kind -/

@[simp] theorem asText?_text (s : String) : (text s).asText? = some s := rfl

@[simp] theorem asBool?_bool (b : Bool) : (bool b).asBool? = some b := rfl

@[simp] theorem asInteger?_integer (i : Int) : (integer i).asInteger? = some i := rfl

@[simp] theorem asInteger?_natural (n : Nat) : (natural n).asInteger? = some (n : Int) := rfl

@[simp] theorem asConstant?_text (s : String) : (text s).asConstant? = some s := rfl

@[simp] theorem asInt32?_integer (i : Int32) : (integer i.toInt).asInt32? = some i := by
  have hpow : Int.pow 2 31 = 2147483648 := by decide
  have hrange : -Int.pow 2 31 ≤ i.toInt ∧ i.toInt < Int.pow 2 31 := by
    rw [hpow]
    exact ⟨i.le_toInt, i.toInt_lt⟩
  rw [asInt32?, asInteger?_integer, Option.bind_some, if_pos hrange, Int32.ofInt_toInt]

@[simp] theorem asUInt32?_natural (n : UInt32) : (natural n.toNat).asUInt32? = some n := by
  have hpow : Int.pow 2 32 = 4294967296 := by decide
  have hbound : n.toNat < 4294967296 := n.toNat_lt
  have hrange : 0 ≤ (n.toNat : Int) ∧ (n.toNat : Int) < Int.pow 2 32 := by
    rw [hpow]
    omega
  rw [asUInt32?, asInteger?_natural, Option.bind_some, if_pos hrange, Int.toNat_natCast,
    UInt32.ofNat_toNat]

@[simp] theorem asUInt64?_natural (n : UInt64) : (natural n.toNat).asUInt64? = some n := by
  have hpow : Int.pow 2 64 = 18446744073709551616 := by decide
  have hbound : n.toNat < 18446744073709551616 := n.toNat_lt
  have hrange : 0 ≤ (n.toNat : Int) ∧ (n.toNat : Int) < Int.pow 2 64 := by
    rw [hpow]
    omega
  rw [asUInt64?, asInteger?_natural, Option.bind_some, if_pos hrange, Int.toNat_natCast,
    UInt64.ofNat_toNat]

/-! ## Lists and optional members -/

/-- A list is read back if each of its items is. -/
theorem asList?_array_map {α : Type} {read : Json → Option α} {write : α → Json}
    (h : ∀ a, read (write a) = some a) (as : List α) :
    (array (as.map write)).asList? read = some as := by
  rw [asList?]
  induction as with
  | nil => rfl
  | cons a as ih => rw [List.map_cons, List.mapM_cons, h, ih]; rfl

@[simp] theorem asList?_texts (ss : List String) : (texts ss).asList? asText? = some ss :=
  asList?_array_map asText?_text ss

/-- A member that may be null is read back if it is so when it is there, and null stands for nothing
else. -/
theorem optional?_elim {α : Type} {read : Json → Option α} {write : α → Json}
    (h : ∀ a, read (write a) = some a) (hnull : read .null = none) (o : Option α) :
    optional? read (some (o.elim .null write)) = some o := by
  cases o with
  | none => rfl
  | some a =>
    have hne : write a ≠ .null := by
      intro hwrite
      have hread := h a
      rw [hwrite, hnull] at hread
      cases hread
    rw [Option.elim_some, optional?, h, Option.map_some]
    simpa using hne

@[simp] theorem optional?_text? (s : Option String) : optional? asText? (some (text? s)) = some s :=
  optional?_elim asText?_text rfl s

end CiHarness.Json
