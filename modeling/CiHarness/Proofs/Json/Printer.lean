import CiHarness.Json.Reading
import CiHarness.Proofs.Json.Lexer

/-!
# What is written can be read back

From its words a JSON value is put together by a machine with a stack: a frame of it is an array or
an object whose end has not come yet. Both layouts of a value are the same words, and from these the
machine has the value again. So no two values are written alike, and a text that was written says
all of the value that it is of. The main statements are `ofText?_pretty` and `ofText?_compact`.
-/
namespace CiHarness.Json

namespace Reader

/-- An array or an object that is not over, with what is read of it so far. -/
inductive Frame where
  | items (done : List Json)
  | members (done : List (String × Json)) (name : String)

end Reader

/-- Where the machine stands: before a value, before the name of a member, behind such a name, or
behind a value. The frames are around it from the inside to the outside. -/
inductive Reader where
  | value (frames : List Reader.Frame)
  | member (frames : List Reader.Frame) (done : List (String × Json))
  | named (frames : List Reader.Frame) (done : List (String × Json)) (name : String)
  | whole (frames : List Reader.Frame) (v : Json)

namespace Reader

/-- A mark behind a value goes on with what is around it or ends it. -/
def Frame.next (frames : List Frame) (v : Json) (c : Char) : Frame → Option Reader
  | .items done =>
    if c = ',' then some (.value (.items (done ++ [v]) :: frames))
    else if c = ']' then some (.whole frames (.array (done ++ [v])))
    else none
  | .members done name =>
    if c = ',' then some (.member frames (done ++ [(name, v)]))
    else if c = '\x7d' then some (.whole frames (.object (done ++ [(name, v)])))
    else none

/-- An array ends before its first item. -/
def endItems? : List Frame → Option Reader
  | .items [] :: frames => some (.whole frames (.array []))
  | .items (_ :: _) :: _ => none
  | .members _ _ :: _ => none
  | [] => none

/-- A word is taken. -/
def take : Reader → Lexeme → Option Reader
  | .value frames, .scalar v => some (.whole frames v)
  | .value frames, .mark c =>
    if c = '[' then some (.value (.items [] :: frames))
    else if c = '\x7b' then some (.member frames [])
    else if c = ']' then endItems? frames
    else none
  | .member frames done, .scalar v => v.asText?.map (.named frames done)
  | .member frames done, .mark c =>
    if c = '\x7d' ∧ done.isEmpty then some (.whole frames (.object [])) else none
  | .named frames done name, .mark c =>
    if c = ':' then some (.value (.members done name :: frames)) else none
  | .whole (frame :: frames) v, .mark c => frame.next frames v c
  | .named _ _ _, .scalar _ => none
  | .whole [] _, .mark _ => none
  | .whole _ _, .scalar _ => none

/-- The value that is read, if nothing around it is left open. -/
def result? : Reader → Option Json
  | .whole [] v => some v
  | .whole (_ :: _) _ => none
  | .value _ => none
  | .member _ _ => none
  | .named _ _ _ => none

end Reader

/-- The value of a JSON text. -/
def ofText? (s : String) : Option Json :=
  (lexemes? s.toList).bind fun ws => (ws.foldlM Reader.take (.value [])).bind Reader.result?

/-! ## The words of a value -/

mutual

/-- The words of a value, in either layout. -/
def words : Json → List Lexeme
  | .null => [.scalar .null]
  | .bool b => [.scalar (.bool b)]
  | .number digits places => [.scalar (.number digits places)]
  | .text s => [.scalar (.text s)]
  | .array items => .mark '[' :: (wordsOfItems items ++ [.mark ']'])
  | .object members => .mark '\x7b' :: (wordsOfMembers members ++ [.mark '\x7d'])

def wordsOfItems : List Json → List Lexeme
  | [] => []
  | [v] => words v
  | v :: w :: rest => words v ++ .mark ',' :: wordsOfItems (w :: rest)

def wordsOfMembers : List (String × Json) → List Lexeme
  | [] => []
  | [(name, v)] => .scalar (.text name) :: .mark ':' :: words v
  | (name, v) :: m :: rest =>
    .scalar (.text name) :: .mark ':' :: (words v ++ .mark ',' :: wordsOfMembers (m :: rest))

end

namespace Reader

mutual

/-- From its words a value is read, whatever is around it. -/
theorem foldlM_words (frames : List Frame) :
    ∀ v : Json, v.words.foldlM take (.value frames) = some (.whole frames v)
  | .null => rfl
  | .bool _ => rfl
  | .number _ _ => rfl
  | .text _ => rfl
  | .array [] => rfl
  | .array (v :: rest) => foldlM_wordsOfItems frames [] (v :: rest) (List.cons_ne_nil v rest)
  | .object [] => rfl
  | .object (m :: rest) => foldlM_wordsOfMembers frames [] (m :: rest) (List.cons_ne_nil m rest)

theorem foldlM_wordsOfItems (frames : List Frame) (done : List Json) :
    ∀ items : List Json, items ≠ [] →
      (wordsOfItems items ++ [Lexeme.mark ']']).foldlM take (.value (.items done :: frames)) =
        some (.whole frames (.array (done ++ items)))
  | [], h => absurd rfl h
  | [v], _ => by
    rw [wordsOfItems, List.foldlM_append, foldlM_words]
    rfl
  | v :: w :: rest, _ => by
    have ih := foldlM_wordsOfItems frames (done ++ [v]) (w :: rest) (List.cons_ne_nil w rest)
    rw [List.append_assoc, List.singleton_append] at ih
    rw [wordsOfItems, List.append_assoc, List.foldlM_append, foldlM_words]
    exact ih

theorem foldlM_wordsOfMembers (frames : List Frame) (done : List (String × Json)) :
    ∀ members : List (String × Json), members ≠ [] →
      (wordsOfMembers members ++ [Lexeme.mark '\x7d']).foldlM take (.member frames done) =
        some (.whole frames (.object (done ++ members)))
  | [], h => absurd rfl h
  | [(name, v)], _ => by
    have hvalue := foldlM_words (.members done name :: frames) v
    -- The name and the colon behind it are taken, and the value is next.
    change (v.words ++ [Lexeme.mark '\x7d']).foldlM take
      (.value (.members done name :: frames)) = _
    rw [List.foldlM_append, hvalue]
    rfl
  | (name, v) :: m :: rest, _ => by
    have hvalue := foldlM_words (.members done name :: frames) v
    have ih := foldlM_wordsOfMembers frames (done ++ [(name, v)]) (m :: rest)
      (List.cons_ne_nil m rest)
    rw [List.append_assoc, List.singleton_append] at ih
    change (v.words ++ Lexeme.mark ',' :: wordsOfMembers (m :: rest) ++
      [Lexeme.mark '\x7d']).foldlM take (.value (.members done name :: frames)) = _
    rw [List.append_assoc, List.foldlM_append, hvalue]
    exact ih

end

end Reader

/-! ## The layouts -/

mutual

theorem spells_compact : ∀ v : Json, Spells (compact v).toList v.words
  | .null => spells_null
  | .bool true => spells_true
  | .bool false => spells_false
  | .number digits places => spells_writeNumber digits places
  | .text s => spells_quote s
  | .array items => by
    have hend : Spells [']'] [.mark ']'] := .mark_cons (by decide) .nil
    rw [compact, String.toList_append, String.toList_append, List.append_assoc]
    exact .mark_cons (by decide) (.append rfl (spells_compactItems items) hend)
  | .object members => by
    have hend : Spells ['\x7d'] [.mark '\x7d'] := .mark_cons (by decide) .nil
    rw [compact, String.toList_append, String.toList_append, List.append_assoc]
    exact .mark_cons (by decide) (.append rfl (spells_compactMembers members) hend)

theorem spells_compactItems :
    ∀ items : List Json, Spells (compactItems items).toList (wordsOfItems items)
  | [] => .nil
  | [v] => spells_compact v
  | v :: w :: rest => by
    rw [compactItems, String.toList_append, String.toList_append, List.append_assoc]
    exact .append rfl (spells_compact v) (.mark_cons (by decide) (spells_compactItems (w :: rest)))

theorem spells_compactMembers :
    ∀ members : List (String × Json),
      Spells (compactMembers members).toList (wordsOfMembers members)
  | [] => .nil
  | [(name, v)] => by
    rw [compactMembers, String.toList_append, String.toList_append, List.append_assoc]
    exact .append rfl (spells_quote name) (.mark_cons (by decide) (spells_compact v))
  | (name, v) :: m :: rest => by
    have hrest := Spells.mark_cons (c := ',') (by decide) (spells_compactMembers (m :: rest))
    simp only [compactMembers, String.toList_append, List.append_assoc]
    exact .append rfl (spells_quote name)
      (.mark_cons (by decide) (.append rfl (spells_compact v) hrest))

end

theorem toList_newLine (depth : Nat) :
    (newLine depth).toList = '\n' :: List.replicate (2 * depth) ' ' := by
  simp [newLine, String.toList_append]

/-- A new line is passed over. -/
theorem spells_newLine (depth : Nat) {cs : List Char} {ws : List Lexeme} (h : Spells cs ws) :
    Spells ('\n' :: (List.replicate (2 * depth) ' ' ++ cs)) ws := by
  apply Spells.blank_cons (by decide)
  apply h.blanks_append
  intro c hc
  rw [List.eq_of_mem_replicate hc]
  decide

mutual

theorem spells_indented (depth : Nat) : ∀ v : Json, Spells (indented depth v).toList v.words
  | .null => spells_null
  | .bool true => spells_true
  | .bool false => spells_false
  | .number digits places => spells_writeNumber digits places
  | .text s => spells_quote s
  | .array [] => by
    rw [indented]
    exact .mark_cons (by decide) (.mark_cons (by decide) .nil)
  | .array (v :: rest) => by
    have hend : Spells [']'] [.mark ']'] := .mark_cons (by decide) .nil
    simp only [indented, String.toList_append, toList_newLine, List.append_assoc]
    exact .mark_cons (by decide)
      (.append rfl (spells_indentedItems (depth + 1) (v :: rest)) (spells_newLine depth hend))
  | .object [] => by
    rw [indented]
    exact .mark_cons (by decide) (.mark_cons (by decide) .nil)
  | .object (m :: rest) => by
    have hend : Spells ['\x7d'] [.mark '\x7d'] := .mark_cons (by decide) .nil
    simp only [indented, String.toList_append, toList_newLine, List.append_assoc]
    exact .mark_cons (by decide)
      (.append rfl (spells_indentedMembers (depth + 1) (m :: rest)) (spells_newLine depth hend))

theorem spells_indentedItems (depth : Nat) :
    ∀ items : List Json, Spells (indentedItems depth items).toList (wordsOfItems items)
  | [] => .nil
  | [v] => by
    rw [indentedItems, String.toList_append, toList_newLine]
    exact spells_newLine depth (spells_indented depth v)
  | v :: w :: rest => by
    have hrest := Spells.mark_cons (c := ',') (by decide) (spells_indentedItems depth (w :: rest))
    simp only [indentedItems, String.toList_append, toList_newLine, List.append_assoc]
    exact spells_newLine depth (.append rfl (spells_indented depth v) hrest)

theorem spells_indentedMembers (depth : Nat) :
    ∀ members : List (String × Json),
      Spells (indentedMembers depth members).toList (wordsOfMembers members)
  | [] => .nil
  | [(name, v)] => by
    simp only [indentedMembers, String.toList_append, toList_newLine, List.append_assoc]
    exact spells_newLine depth (.append rfl (spells_quote name)
      (.mark_cons (by decide) (.blank_cons (by decide) (spells_indented depth v))))
  | (name, v) :: m :: rest => by
    have hrest := Spells.mark_cons (c := ',') (by decide) (spells_indentedMembers depth (m :: rest))
    simp only [indentedMembers, String.toList_append, toList_newLine, List.append_assoc]
    exact spells_newLine depth (.append rfl (spells_quote name)
      (.mark_cons (by decide)
        (.blank_cons (by decide) (.append rfl (spells_indented depth v) hrest))))

end

/-! ## Reading back -/

/-- A text that spells the words of a value is read as that value. -/
theorem ofText?_of_spells {s : String} {v : Json} (h : Spells s.toList v.words) :
    ofText? s = some v := by
  rw [ofText?, h.lexemes?_eq, Option.bind_some, Reader.foldlM_words, Option.bind_some]
  rfl

/-- **The compact layout of a value is read back as that value.** -/
theorem ofText?_compact (v : Json) : ofText? v.compact = some v :=
  ofText?_of_spells (spells_compact v)

/-- **The indented layout of a value is read back as that value.** -/
theorem ofText?_pretty (v : Json) : ofText? v.pretty = some v :=
  ofText?_of_spells (spells_indented 0 v)

example : ofText? "\x7b \"a\": [true, -0.50] \x7d" =
    some (.object [("a", .array [.bool true, .number (-50) 2])]) := rfl

example : ofText? "[true,]" = none := rfl

/-- It is all the same whether a line ends behind the value. -/
theorem ofText?_pretty_append_newLine (v : Json) : ofText? (v.pretty ++ "\n") = some v := by
  apply ofText?_of_spells
  have hline : Spells ['\n'] [] := .blank_cons (by decide) .nil
  have hspells := Spells.append rfl (spells_indented 0 v) hline
  rw [List.append_nil] at hspells
  rw [pretty, String.toList_append]
  exact hspells

end CiHarness.Json
