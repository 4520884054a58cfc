import CiHarness.Log.Entry
import CiHarness.Log.Pattern
import CiHarness.Text.Alphanumeric
import CiHarness.Text.Blank
import CiHarness.Text.Pieces

/-!
# Log directives

A directive bounds the levels that are logged, for all entries or for those of one target, and
perhaps only for entries with a certain field. It is written as a level alone, as a target alone, or
as `target[span{field}]=level`, where every part but one may be missing. The harness opens no spans,
and none of its entries is looked into for the value of a field, so a directive about either bounds
nothing.

The marks of a directive are looked for in its text without the blanks around it, but what lies
between them is cut, at the same byte positions, from the text as it stands. A blank at the end is
thus part of the last piece, and one in front shifts every piece, so that a piece may end inside of
a character.
-/
namespace CiHarness

/-- A bound on levels: an entry passes if the rank of its level is not above the bound. -/
abbrev LevelBound := Nat

namespace Level

/-- The bound that lets everything pass. -/
def unbounded : LevelBound := trace.rank

/-- The bounds that have a name. -/
def boundNames : List (String × LevelBound) :=
  [("off", 0), ("error", error.rank), ("warn", warn.rank), ("info", info.rank),
    ("debug", debug.rank), ("trace", trace.rank)]

/-- The number that digits spell, perhaps after a plus sign. -/
def bareNumber? (cs : List Char) : Option Nat :=
  let digits := match cs with
    | '+' :: rest => rest
    | _ => cs
  if digits.isEmpty || !digits.all Char.isDigit then none
  else some (digits.foldl (fun n d => 10 * n + (d.toNat - '0'.toNat)) 0)

/-- Digits, perhaps with a point, and perhaps with an exponent. -/
def isDecimal (cs : List Char) : Bool :=
  let fraction := cs.dropWhile Char.isDigit
  let pointed := fraction.head? = some '.'
  let fraction := if pointed then fraction.tail else fraction
  let exponent := fraction.dropWhile Char.isDigit
  let hasDigits := cs.head?.any Char.isDigit || (pointed && fraction.head?.any Char.isDigit)
  let afterSign := match exponent with
    | e :: '+' :: rest => if e = 'e' ∨ e = 'E' then rest else ['x']
    | e :: '-' :: rest => if e = 'e' ∨ e = 'E' then rest else ['x']
    | e :: rest => if e = 'e' ∨ e = 'E' then rest else ['x']
    | [] => ['0']
  hasDigits && !afterSign.isEmpty && afterSign.all Char.isDigit

/-- A number with or without a sign: a decimal, an infinity, or none at all. -/
def isNumeral (cs : List Char) : Bool :=
  let unsigned := match cs with
    | '+' :: rest => rest
    | '-' :: rest => rest
    | _ => cs
  isDecimal unsigned ||
    ["inf", "infinity", "nan"].contains (String.ofList (unsigned.map Char.toLower))

/-- A bound is written as a number from 0 to 5 or by its name in either case. -/
def boundOf? (cs : List Char) : Option LevelBound :=
  match bareNumber? cs with
  | some n => if n ≤ unbounded then some n else none
  | none => boundNames.lookup (String.ofList (cs.map Char.toLower))

end Level

/-- A directive. -/
structure Directive where
  /-- What the target of an entry must begin with. -/
  target : Option String
  /-- The span inside which an entry must be logged. -/
  span : Option String
  /-- The field that an entry must have, and perhaps a value for it. -/
  field : Option (String × Option String)
  bound : LevelBound
  deriving DecidableEq

namespace Directive

/-! ## Reading -/

/-- Why a text is no directive. -/
inductive Fault where
  | malformed
  /-- A piece would begin or end inside of a character. -/
  | insideCharacter
  deriving DecidableEq

/-- A text that is being read: the text as it stands, and what is left of it without the blanks
around it, of which `position` bytes have been read. -/
structure Cursor where
  source : List Char
  position : Nat
  rest : List Char

namespace Cursor

def ofChars (piece : List Char) : Cursor := ⟨piece, 0, Text.trimChars piece⟩

/-- One character is passed over. -/
def next (c : Cursor) : Cursor :=
  match c.rest with
  | [] => c
  | mark :: rest => ⟨c.source, c.position + mark.utf8Size, rest⟩

/-- A piece of the text as it stands. -/
def piece (c : Cursor) (start stop : Nat) : Except Fault (List Char) :=
  (Text.betweenBytes start stop c.source).elim (.error .insideCharacter) .ok

/-- What comes before the first mark of some kind, and the cursor at that mark; malformed without
such a mark. -/
def upTo (c : Cursor) (isMark : Char → Bool) : Except Fault (List Char × Cursor) :=
  match c.rest.dropWhile (!isMark ·) with
  | [] => .error .malformed
  | rest =>
    let position := c.position + Text.byteCount (c.rest.takeWhile (!isMark ·))
    (c.piece c.position position).map fun piece => (piece, ⟨c.source, position, rest⟩)

/-- All that is left. -/
def remaining (c : Cursor) : Except Fault (List Char) :=
  c.piece c.position (Text.byteCount c.source)

end Cursor

/-- A piece that may be missing. -/
def nonempty? (cs : List Char) : Option String :=
  if cs.isEmpty then none else some (String.ofList cs)

/-- The end of a directive: nothing, or an equals sign and a level, which may be missing too. -/
def withBound (d : Directive) (c : Cursor) : Except Fault Directive :=
  match c.rest with
  | [] => .ok d
  | '=' :: _ =>
    c.next.remaining.bind fun level =>
      if level.isEmpty then .ok d
      else (Level.boundOf? level).elim (.error .malformed) fun bound =>
        .ok { d with bound := bound }
  | _ => .error .malformed

/-- A field and, after an equals sign, its value, which ends at the next one. A value is a truth
value, a number or a pattern. -/
def fieldOf (cs : List Char) : Except Fault (String × Option String) :=
  match Text.pieces '=' cs with
  | name :: value :: _ =>
    if Level.isNumeral value || Pattern.isPattern value then
      .ok (String.ofList name, some (String.ofList value))
    else .error .malformed
  | _ => .ok (String.ofList cs, none)

/-- A span between brackets, perhaps with a field between braces; the cursor is after the first
bracket. -/
def withSpan (d : Directive) (c : Cursor) : Except Fault Directive :=
  (c.upTo fun m => m = ']' || m = '\x7b').bind fun (span, c) =>
    if c.rest.head? = some ']' then withBound { d with span := some (String.ofList span) } c.next
    else
      (c.next.upTo (· = '\x7d')).bind fun (field, c) =>
        if field.isEmpty then .error .malformed
        else
          (fieldOf field).bind fun field =>
            if c.next.rest.head? = some ']' then
              withBound { d with span := nonempty? span, field := some field } c.next.next
            else .error .malformed

/-- A name may begin with a letter, a number, a hyphen, a colon or an underscore. -/
def isNameStart (c : Char) : Bool := c = '-' || c = ':' || c = '_' || Text.isAlphanumeric c

/-- A lone name is a level, or else a target. -/
def ofName (name : List Char) : Directive :=
  match Level.boundOf? name with
  | some bound => ⟨none, none, none, bound⟩
  | none => ⟨some (String.ofList name), none, none, Level.unbounded⟩

/-- A directive of a piece of text. -/
def ofChars (piece : List Char) : Except Fault Directive :=
  let c := Cursor.ofChars piece
  let all : Directive := ⟨none, none, none, Level.unbounded⟩
  match c.rest with
  | [] => .error .malformed
  | first :: _ =>
    if first = '[' then withSpan all c.next
    else if !isNameStart first then .error .malformed
    else if !c.rest.any (fun m => m = '=' || m = '[') then .ok (ofName piece)
    else
      (c.upTo fun m => m = '=' || m = '[').bind fun (name, c) =>
        let d := { all with target := some (String.ofList name) }
        if c.rest.head? = some '[' then withSpan d c.next else withBound d c

/-! ## Meaning -/

/-- A directive that asks for a span, or for the value of a field, is idle. -/
def isIdle (d : Directive) : Bool := d.span.isSome || d.field.any (·.2.isSome)

/-- A directive is about an entry if the entry's target begins with that of the directive, and the
entry has the field that is asked for. -/
def isAbout (d : Directive) (e : LogEntry) : Bool :=
  !d.isIdle && d.target.all (·.toList.isPrefixOf e.target.toList) &&
    d.field.all fun (name, _) => name = "message" || e.fields.any (·.1 = name)

/-- Of two directives about one entry, the one with the longer target counts, then the one that asks
for a field, then the one whose field comes later in the order of texts; equally specific ones are
told apart by their place alone. -/
def isLessSpecific (d d' : Directive) : Bool :=
  let size (d : Directive) : Nat := d.target.elim 0 (·.utf8ByteSize)
  if size d ≠ size d' then size d < size d'
  else
    match d.field, d'.field with
    | none, some _ => true
    | some (name, _), some (name', _) => name < name'
    | _, none => false

end Directive

end CiHarness
