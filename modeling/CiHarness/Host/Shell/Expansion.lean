import CiHarness.Host.Format
import CiHarness.Host.Glob
import CiHarness.Host.Shell.Arithmetic
import CiHarness.Host.Shell.State

/-!
# What words stand for

The parts of a word are replaced from left to right; then what was not quoted is split into fields,
and a field that is a pattern stands for the paths that match it. A value that is missing where it
must not be, a form that is not known and an expression without a value end the shell.
-/
namespace CiHarness.Shell

/-- How a script inside of a word is run: its output, and the shell after it. -/
abbrev Runner := Script → State → String × State

/-- What a part of a word gives. -/
inductive Piece where
  /-- Characters that belong to one field. -/
  | cells (cs : List Cell)
  /-- A value that is split into fields. -/
  | splitting (s : String)
  /-- One field ends and another one begins. -/
  | cut

/-- The fields so far, the last one first, and the one in progress, its last character first. -/
structure Fields where
  done : List (List Cell)
  current : Option (List Cell)
  /-- Whether the last field was ended by a blank alone. -/
  endedByBlank : Bool

namespace Fields

def empty : Fields := ⟨[], none, false⟩

def close (f : Fields) (byBlank : Bool) : Fields :=
  match f.current with
  | none => f
  | some cells => ⟨cells.reverse :: f.done, none, byBlank⟩

/-- One character of a value that is split. -/
def splitAt (separators : String) (f : Fields) (c : Char) : Fields :=
  if separators.toList.contains c then
    if c = ' ' ∨ c = '\t' ∨ c = '\n' then f.close true
    else
      match f.current with
      | some _ => f.close false
      | none =>
        if f.endedByBlank then { f with endedByBlank := false }
        else { f with done := [] :: f.done }
  else { f with current := some ((c, false) :: f.current.getD []), endedByBlank := false }

def add (separators : String) (f : Fields) : Piece → Fields
  | .cells cs => { f with current := some (cs.reverse ++ f.current.getD []) }
  | .splitting s => s.foldl (splitAt separators) f
  | .cut => f.close false

/-- The fields of some pieces. -/
def ofPieces (separators : String) (pieces : List Piece) : List (List Cell) :=
  ((pieces.foldl (add separators) empty).close false).done.reverse

end Fields

namespace Piece

/-- A text that is quoted. -/
def fixed (s : String) : Piece := .cells (Glob.quoted s)

/-- The text of some pieces that are not split. -/
def text (pieces : List Piece) : String :=
  String.join (pieces.map fun
    | .cells cs => Glob.textOf cs
    | .splitting s => s
    | .cut => " ")

/-- The pattern of some pieces that are not split. -/
def pattern (pieces : List Piece) : List Cell :=
  pieces.flatMap fun
    | .cells cs => cs
    | .splitting s => Glob.active s
    | .cut => Glob.quoted " "

end Piece

/-- The text without the line breaks at its end. -/
def withoutLineBreaks (s : String) : String :=
  if s.endsWith "\n" then String.ofList (s.toList.reverse.dropWhile (· = '\n')).reverse else s

/-! ## Cutting values -/

/-- The beginnings of a text and what is left after each, the shortest first. -/
def cuts (s : String) : List (String × String) :=
  let cs := s.toList
  (List.range (cs.length + 1)).map fun i => (String.ofList (cs.take i), String.ofList (cs.drop i))

/-- What is left of a text if a pattern is taken away at one end, as much or as little as
possible. -/
def trimmed (choices atEnd longest : Bool) (pattern : List Cell) (s : String) : String :=
  let all := cuts s
  let fits : String → Bool := Glob.isMatch choices pattern
  if atEnd then
    let candidates := if longest then all else all.reverse
    ((candidates.find? fun (_, back) => fits back).map (·.1)).getD s
  else
    let candidates := if longest then all.reverse else all
    ((candidates.find? fun (front, _) => fits front).map (·.2)).getD s

/-- A text with what matches a pattern replaced by another text. -/
def replaced (choices ignoresCase : Bool) (anchor : Anchor) (pattern : List Cell)
    (replacement s : String) :
    String :=
  let fits : String → Bool := Glob.fits choices ignoresCase pattern
  /- The longest match at the front of a text, with what is left. -/
  let atFront (s : String) : Option String :=
    (((cuts s).reverse.find? fun (front, _) => fits front).map (·.2))
  let rec go : Nat → List Char → List Char
    | 0, cs => cs
    | n + 1, cs =>
      match cs with
      | [] => []
      | c :: rest =>
        match atFront (String.ofList cs) with
        | some left =>
          if left.length = cs.length then c :: go n rest
          else if anchor = .everywhere then replacement.toList ++ go n left.toList
          else replacement.toList ++ left.toList
        | none => c :: go n rest
  match anchor with
  | .front => ((atFront s).map (replacement ++ ·)).getD s
  | .back => (((cuts s).find? fun (_, back) => fits back).map (·.1 ++ replacement)).getD s
  | _ => if pattern.isEmpty then s else String.ofList (go (s.length + 1) s.toList)

/-- A text in the other case. -/
def recased (toUpper all : Bool) (s : String) : String :=
  let change (c : Char) : Char := if toUpper then c.toUpper else c.toLower
  if all then s.map change
  else
    match s.toList with
    | [] => s
    | c :: cs => String.ofList (change c :: cs)

/-- A part of a list that begins at an offset, which may count from the end. -/
def sliced {α : Type} (offset : Int) (count : Option Int) (xs : List α) : List α :=
  let start := if offset < 0 then (xs.length : Int) + offset else offset
  if start < 0 then []
  else
    let rest := xs.drop start.toNat
    match count with
    | none => rest
    | some n => if n < 0 then rest.take ((rest.length : Int) + n).toNat else rest.take n.toNat

/-! ## Choices in braces -/

/-- A character of a word that is not quoted, or a part that stays together. -/
inductive BraceItem where
  | char (c : Char)
  | part (p : Part)

namespace BraceItem

def ofWord (w : Word) : List BraceItem :=
  w.flatMap fun
    | .text s false => s.toList.map .char
    | p => [.part p]

def toWord : List BraceItem → Word
  | [] => []
  | .char c :: rest =>
    match toWord rest with
    | .text s false :: more => .text (c.toString ++ s) false :: more
    | more => .text c.toString false :: more
  | .part p :: rest => p :: toWord rest

def isChar (c : Char) : BraceItem → Bool
  | .char d => c = d
  | .part _ => false

/-- The choices between braces, cut at their commas, and what comes after; the opening brace has
been taken. -/
def choices : Nat → Nat → List BraceItem → List (List BraceItem) → List BraceItem →
    Option (List (List BraceItem) × List BraceItem)
  | 0, _, _, _, _ => none
  | _ + 1, _, _, _, [] => none
  | n + 1, depth, current, done, item :: rest =>
    if item.isChar '\x7b' then choices n (depth + 1) (item :: current) done rest
    else if item.isChar '\x7d' then
      match depth with
      | 0 => some ((current.reverse :: done).reverse, rest)
      | depth + 1 => choices n depth (item :: current) done rest
    else if item.isChar ',' && depth == 0 then choices n depth [] (current.reverse :: done) rest
    else choices n depth (item :: current) done rest

/-- The numbers or letters from one to another. -/
def interval? (items : List BraceItem) : Option (List (List BraceItem)) :=
  let text := String.ofList (items.filterMap fun
    | .char c => some c
    | .part _ => none)
  let number? (s : String) : Option Int := if s.startsWith "+" then none else s.toInt?
  if text.length != items.length then none
  else
    let between (a b : Int) (step : Int) : List Int :=
      let step := if step = 0 then 1 else step.natAbs
      (List.range ((a - b).natAbs / step + 1)).map fun (i : Nat) =>
        let way : Int := i * step
        if a ≤ b then a + way else a - way
    let render (width : Nat) (n : Int) : String :=
      let digits := toString n.natAbs
      (if n < 0 then "-" else "") ++
        String.ofList (List.replicate (width - digits.length - if n < 0 then 1 else 0) '0') ++
        digits
    let isPadded (s : String) : Bool :=
      let digits := if s.startsWith "-" then (s.drop 1).toString else s
      digits.startsWith "0" && 1 < digits.length
    let make (a b : String) (step : Int) : Option (List (List BraceItem)) :=
      match number? a, number? b with
      | some x, some y =>
        let width := if isPadded a || isPadded b then max a.length b.length else 0
        some ((between x y step).map fun n => (render width n).toList.map .char)
      | _, _ =>
        match a.toList, b.toList with
        | [c], [d] =>
          if c.isAlpha && d.isAlpha then
            some ((between c.toNat d.toNat step).map fun n => [.char (Char.ofNat n.toNat)])
          else none
        | _, _ => none
    match text.splitOn ".." with
    | [a, b] => make a b 1
    | [a, b, step] => (number? step).bind (make a b)
    | _ => none

/-- A word with its choices in braces replaced by one word for each. -/
def expand : Nat → List BraceItem → List (List BraceItem)
  | 0, items => [items]
  | n + 1, items =>
    let front := items.takeWhile (!·.isChar '\x7b')
    match items.drop front.length with
    | [] => [items]
    | brace :: inner =>
      let all : Option (List (List BraceItem) × List BraceItem) :=
        (choices (inner.length + 1) 0 [] [] inner).bind fun (parts, after) =>
          match parts with
          | [only] => (interval? only).map (·, after)
          | parts => some (parts.flatMap (expand n), after)
      match all with
      | some (parts, after) =>
        let backs := expand n after
        parts.flatMap fun part => backs.map fun back => front ++ part ++ back
      | none => (expand n inner).map fun rest => front ++ brace :: rest

end BraceItem

/-- A word of the extended shell with its choices in braces replaced. -/
def expandBraces (w : Word) : List Word :=
  let items := BraceItem.ofWord w
  if items.any (·.isChar '\x7b') then
    (BraceItem.expand (items.length + 1) items).map BraceItem.toWord
  else [w]

/-! ## Home directories -/

/-- What a tilde and the name after it stand for. -/
def home? (s : State) (name : String) : Option String :=
  if name = "" then (s.value? "HOME").or (if s.extended then some "/root" else none)
  else if name = "+" ∧ s.extended then some s.way
  else if name = "-" ∧ s.extended then s.value? "OLDPWD"
  else if name = "root" then some "/root"
  else none

/-- A text with a tilde in front, replaced. -/
def expandTilde (s : State) (t : String) (isWhole : Bool) : List Piece :=
  if t.startsWith "~" then
    let name := (t.toList.tail).takeWhile (· != '/')
    let rest := t.toList.drop (name.length + 1)
    if rest.isEmpty ∧ !isWhole then [.cells (Glob.active t)]
    else
      match home? s (String.ofList name) with
      | some home => [.fixed home, .cells (Glob.active (String.ofList rest))]
      | none => [.cells (Glob.active t)]
  else [.cells (Glob.active t)]

/-- The same for what is assigned, where a tilde may also stand after a colon. -/
def expandTildes (s : State) (t : String) (isWhole : Bool) : List Piece :=
  let parts := Text.split ':' t
  let pieces := parts.zipIdx.map fun (part, i) =>
    expandTilde s part (i + 1 < parts.length || isWhole)
  (pieces.intersperse [.cells (Glob.active ":")]).flatten

/-! ## Values -/

/-- A value: a text that may be missing, or a list whose elements stay apart or are joined. -/
inductive Found where
  | single (s : Option String)
  | several (isJoined : Bool) (all : List String)

namespace Found

/-- Whether there is nothing, or nothing but an empty text. -/
def isMissing (orEmpty : Bool) : Found → Bool
  | .single none => true
  | .single (some s) => orEmpty && s == ""
  | .several _ all => all.isEmpty || (orEmpty && all == [""])

/-- Every text is changed. -/
def map (f : String → String) : Found → Found
  | .single s => .single (s.map f)
  | .several isJoined all => .several isJoined (all.map f)

/-- The value as one text. -/
def text (joint : String) : Found → String
  | .single s => s.getD ""
  | .several _ all => joint.intercalate all

/-- The pieces of a value. -/
def pieces (joint : String) (quoted : Bool) : Found → List Piece
  | .single s => [if quoted then .fixed (s.getD "") else .splitting (s.getD "")]
  | .several isJoined all =>
    if quoted && isJoined then [.fixed (joint.intercalate all)]
    else
      let one (s : String) : Piece := if quoted then .fixed s else .splitting s
      (all.map one).intersperse .cut

end Found

/-- Whether an index means all elements, and if so, whether joined. -/
def allIndex? : Option Word → Option Bool
  | some [.text "@" _] => some false
  | some [.text "*" _] => some true
  | _ => none

mutual

/-- The value of an arithmetic expression; none after a complaint. -/
def evaluate (text : String) : Nat → Arithmetic → Sh (Option Int)
  | 0, _ => do abort "expression too deep"; return none
  | _ + 1, .number n => return some n
  | n + 1, .place name index => do
    let s ← get
    match ← element n text name index with
    | none => return none
    | some (some v) =>
      match Arithmetic.ofText? s.extended v with
      | some i => return some i
      | none =>
        if s.extended then
          match Arithmetic.read? true v with
          | some e => evaluate v n e
          | none =>
            abort (v ++ ": syntax error: operand expected (error token is \"" ++ v ++ "\")")
            return none
        else
          abort ("Illegal number: " ++ v)
          return none
    | some none =>
      if s.options.stopsOnUnset then
        abandon (name ++ if s.extended then ": unbound variable" else ": parameter not set")
        return none
      return some 0
  | n + 1, .unary op e => do
    return (← evaluate text n e).map (Arithmetic.sign op)
  | n + 1, .binary op left right => do
    match ← evaluate text n left with
    | none => return none
    | some a =>
      if op = "&&" ∧ a = 0 then return some 0
      if op = "||" ∧ a ≠ 0 then return some 1
      match ← evaluate text n right with
      | none => return none
      | some b =>
        if op = "&&" ∨ op = "||" then return some (Arithmetic.ofBool (b ≠ 0))
        operate op a b
  | n + 1, .choice condition yes no => do
    match ← evaluate text n condition with
    | none => return none
    | some a => if a ≠ 0 then evaluate text n yes else evaluate text n no
  | n + 1, .assign op name index e => do
    match ← evaluate text n e with
    | none => return none
    | some b =>
      if op = "" then
        store n text name index b
        return some b
      match ← evaluate text n (.place name index) with
      | none => return none
      | some a =>
        match ← operate op a b with
        | none => return none
        | some r =>
          store n text name index r
          return some r
  | n + 1, .step name index delta isAfter => do
    match ← evaluate text n (.place name index) with
    | none => return none
    | some a =>
      let r := Arithmetic.wrap (a + delta)
      store n text name index r
      return some (if isAfter then a else r)
where
  operate (op : String) (a b : Int) : Sh (Option Int) := do
    match Arithmetic.operate? op a b with
    | some r => return some r
    | none =>
      let s ← get
      abort (if s.extended then
          text ++ if op = "**" then ": exponent less than 0"
            else ": division by 0 (error token is \"" ++ toString b ++ "\")"
        else "arithmetic expression: division by zero: \"" ++ text ++ "\"")
      return none

/-- The value of a variable in an expression; none after a complaint. -/
def element : Nat → String → String → Option Arithmetic → Sh (Option (Option String))
  | 0, _, _, _ => return none
  | n + 1, text, name, index => do
    match index with
    | none => return some ((← get).value? name)
    | some e =>
      match ← evaluate text n e with
      | none => return none
      | some i =>
        let all := (← get).elements name
        let i := if i < 0 then (((all.getLast?.bind (·.1.toInt?)).getD (-1)) + 1 + i) else i
        return some (all.lookup (toString i))

/-- A variable in an expression is set. -/
def store : Nat → String → String → Option Arithmetic → Int → Sh Unit
  | 0, _, _, _, _ => pure ()
  | n + 1, text, name, index, v => do
    match index with
    | none => let _ ← assign name (toString v)
    | some e =>
      match ← evaluate text n e with
      | none => pure ()
      | some i => let _ ← assignElement name (.inl i) (toString v)

end

/-- How deep expressions go. -/
def expressionDepth : Nat := 1000

/-- The value of the text of an expression; none after a complaint. -/
def evaluateText (text : String) : Sh (Option Int) := do
  let s ← get
  match Arithmetic.read? s.extended text with
  | some e => evaluate text expressionDepth e
  | none =>
    abort (if s.extended then text ++ ": syntax error in expression"
      else "arithmetic expression: expecting primary: \"" ++ text ++ "\"")
    return none

mutual

/-- The pieces of the parts of a word. Inside of a value's word text that is not quoted is split
too. -/
def pieces (run : Runner) : Nat → Bool → Word → Sh (List Piece)
  | 0, _, _ => return []
  | _ + 1, _, [] => return []
  | n + 1, splits, p :: rest => do
    let first ← match p with
      | .text t true => pure [.fixed t]
      | .text t false => pure [if splits then .splitting t else .cells (Glob.active t)]
      | .output body quoted => do
        let s ← get
        let (text, s) := run body s
        set s
        let text := withoutLineBreaks (String.ofList (text.toList.filter (· != '\x00')))
        pure [if quoted then .fixed text else .splitting text]
      | .sum expression quoted => do
        let text := Piece.text (← pieces run n false expression)
        if !(← isRunning) then return []
        match ← evaluateText text with
        | some i => pure [if quoted then .fixed (toString i) else .splitting (toString i)]
        | none => pure []
      | .channel body isInput => do
        let s ← get
        let (text, s) := if isInput then run body s else ("", s)
        let path := "/dev/fd/" ++ toString (63 - s.world.streams.size % 60)
        let (_, world) := s.world.openStream .void
        let here : Place := (Text.split '/' path).tail
        set { s with
          world := world.setFile here (Octets.toBytes text),
          channels := if isInput then s.channels else (here, body) :: s.channels }
        pure [.fixed path]
      | .value name index change quoted => valuePieces run n splits name index change quoted
    if !(← isRunning) then return []
    return first ++ (← pieces run n splits rest)

/-- The pieces of a value. -/
def valuePieces (run : Runner) : Nat → Bool → String → Option Word → Change → Bool → Sh (List Piece)
  | 0, _, _, _, _, _ => return []
  | n + 1, splits, name, index, change, quoted => do
    let found ← lookUp run n name index
    if !(← isRunning) then return []
    let s ← get
    let show' (f : Found) : Sh (List Piece) := return f.pieces (← get).joint quoted
    let one (t : String) : Sh (List Piece) := return [if quoted then .fixed t else .splitting t]
    let text (w : Word) : Sh String := return Piece.text (← pieces run n false w)
    let demandSet : Sh Bool := do
      match found with
      | .single none =>
        if s.options.stopsOnUnset && !(["@", "*"].contains name) then
          abandon (name ++ if s.extended then ": unbound variable" else ": parameter not set")
          return false
        return true
      | _ => return true
    match change with
    | .none => if ← demandSet then show' found else return []
    | .fallback orEmpty w =>
      if !found.isMissing orEmpty then show' found
      else if quoted && w.isEmpty then return [.fixed ""]
      else pieces run n (!quoted) w
    | .alternative orEmpty w =>
      if quoted && (found.isMissing orEmpty || w.isEmpty) then return [.fixed ""]
      else if found.isMissing orEmpty then return []
      else pieces run n (!quoted) w
    | .assign orEmpty w =>
      if found.isMissing orEmpty then
        let v ← text w
        if ← assign name v then one v else return []
      else show' found
    | .demand orEmpty w =>
      if found.isMissing orEmpty then
        let words ← text w
        abandon (name ++ ": " ++ if words != "" then words
          else if s.extended then if orEmpty then "parameter null or not set"
            else "parameter not set"
          else if orEmpty then "parameter not set or null" else "parameter not set")
        return []
      else show' found
    | .length =>
      if !(← demandSet) then return []
      match found with
      | .single v => one (toString (v.getD "").length)
      | .several _ all => one (toString all.length)
    | .trim atEnd longest w =>
      if !(← demandSet) then return []
      let pattern := Piece.pattern (← pieces run n false w)
      show' (found.map (trimmed (s.isOn "extglob") atEnd longest pattern))
    | .replace anchor w replacement =>
      if !(← demandSet) then return []
      let pattern := Piece.pattern (← pieces run n false w)
      let replacement ← text replacement
      show' (found.map (replaced (s.isOn "extglob") (s.isOn "nocasematch") anchor pattern
        replacement))
    | .recase toUpper all _ =>
      if ← demandSet then show' (found.map (recased toUpper all))
      else return []
    | .slice offset count =>
      if !(← demandSet) then return []
      match ← evaluateText (← text offset) with
      | none => return []
      | some offset =>
        let count ← match count with
          | none => pure (some none)
          | some w => do pure ((← evaluateText (← text w)).map some)
        match count with
        | none => return []
        | some count =>
          match found with
          | .single v => one (String.ofList (sliced offset count (v.getD "").toList))
          | .several isJoined all =>
            let all := if index.isNone && 0 ≤ offset then s.name :: all else all
            show' (.several isJoined (sliced offset count all))
    | .indirect change =>
      match found with
      | .single (some target) =>
        let base := target.toList.takeWhile (· != '[')
        let key := (target.toList.drop (base.length + 1)).dropLast
        let index : Option Word := if key.isEmpty then none
          else some [.text (String.ofList key) true]
        let isKnown := Reading.isName (String.ofList base) ||
          (base != [] && base.all Char.isDigit) ||
          ["@", "*", "#", "?", "$", "!", "-"].contains target
        if isKnown then valuePieces run n splits (String.ofList base) index change quoted
        else
          abort (target ++ ": invalid variable name")
          return []
      | _ =>
        abort (name ++ ": invalid indirect expansion")
        return []
    | .keys => show' (.several ((allIndex? index).getD false) ((s.elements name).map (·.1)))
    | .names =>
      show' (.several false
        (((s.bindings.map (·.1)).filter (·.startsWith name)).mergeSort fun a b =>
        decide (a ≤ b)))
    | .transform letter =>
      if !(← demandSet) then return []
      if letter = 'Q' then show' (found.map fun v =>
        if v.any (fun (c : Char) => c.toNat < 0x20 || 0x7F ≤ c.toNat) then shellQuoted v
        else "'" ++ v.replace "'" "'\\''" ++ "'")
      else if letter = 'U' then show' (found.map (recased true true))
      else if letter = 'L' then show' (found.map (recased false true))
      else if letter = 'u' then show' (found.map (recased true false))
      else if letter = 'E' then show' (found.map Reading.quoteEscapes.replaced)
      else show' found
    | .unknown =>
      abort (if s.extended then name ++ ": bad substitution" else "Bad substitution")
      return []

/-- A value without any change. -/
def lookUp (run : Runner) : Nat → String → Option Word → Sh Found
  | 0, _, _ => return .single none
  | n + 1, name, index => do
    let s ← get
    if name = "@" then return .several false s.parameters
    if name = "*" then return .several true s.parameters
    match allIndex? index with
    | some isJoined => return .several isJoined ((s.elements name).map (·.2))
    | none =>
      match index with
      | none =>
        if s.extended && name = "PIPESTATUS" then
          return .single (((s.elements name).map (·.2)).head?)
        return .single (s.value? name)
      | some w =>
        let key := Piece.text (← pieces run n false w)
        if !(← isRunning) then return .single none
        match (s.binding name).value with
        | some (.table elements) => return .single (elements.lookup key)
        | _ =>
          match ← evaluateText key with
          | none => return .single none
          | some i =>
            let all := (← get).elements name
            let i := if i < 0 then (((all.getLast?.bind (·.1.toInt?)).getD (-1)) + 1 + i) else i
            return .single (all.lookup (toString i))

end

/-- How deep words go. -/
def wordDepth : Nat := 10000

/-- The pieces of a word, in which a tilde may stand in front. -/
def wordPieces (run : Runner) (w : Word) : Sh (List Piece) := do
  let s ← get
  match w with
  | .text t false :: rest =>
    if t.startsWith "~" then
      return expandTilde s t rest.isEmpty ++ (← pieces run wordDepth false rest)
    else pieces run wordDepth false w
  | _ => pieces run wordDepth false w

/-- The fields of a word: split, and with patterns replaced by the paths that match them. -/
def fields (run : Runner) (w : Word) : Sh (List String) := do
  let words := if (← get).extended then expandBraces w else [w]
  let mut all : List String := []
  for w in words do
    let found ← wordPieces run w
    let s ← get
    if !s.isRunning then return []
    for field in Fields.ofPieces s.separators found do
      if !s.options.keepsPatterns && Glob.isActive (s.isOn "extglob") field then
        let manner : Glob.Manner :=
          ⟨s.isOn "extglob", s.isOn "dotglob", s.isOn "globstar", s.isOn "nocaseglob",
          !s.isOn "globskipdots"⟩
        let paths := Glob.paths manner s.world.files s.cwd field
        if paths.isEmpty then
          if s.isOn "failglob" then
            abort ("no match: " ++ Glob.textOf field)
            return []
          if !s.isOn "nullglob" then all := Glob.textOf field :: all
        else all := paths.reverse ++ all
      else all := Glob.textOf field :: all
  return all.reverse

/-- The fields of some words. -/
def allFields (run : Runner) (ws : List Word) : Sh (List String) := do
  let mut all : List String := []
  for w in ws do
    if !(← isRunning) then return []
    all := all ++ (← fields run w)
  return all

/-- A word as one text. -/
def wholeText (run : Runner) (w : Word) : Sh String :=
  return Piece.text (← wordPieces run w)

/-- What is assigned, as one text. -/
def assignedText (run : Runner) (w : Word) : Sh String := do
  let s ← get
  match w with
  | .text t false :: rest =>
    return Piece.text (expandTildes s t rest.isEmpty ++ (← pieces run wordDepth false rest))
  | _ => return Piece.text (← pieces run wordDepth false w)

/-- A word as a pattern. -/
def patternOf (run : Runner) (w : Word) : Sh (List Cell) :=
  return Piece.pattern (← wordPieces run w)

end CiHarness.Shell
