/-!
# Alignments

Two sequences of lines are aligned: a smallest set of lines is found that are only in one of them,
and the others are the same in both, one after another. A shortest way from one corner of the table
of both is sought from both ends at once, and the halves are aligned in the same way. Where a block
of changed lines could as well stand a few lines further down, it does, unless it can stand beside a
block of the other sequence. Lines are given as numbers, the same ones for lines that count as
equal.
-/
namespace CiHarness

/-- A block of changed lines: where it begins in both sequences, and how many lines it has in
each. -/
structure Change where
  before : Nat
  after : Nat
  deleted : Nat
  inserted : Nat
  deriving DecidableEq

namespace Alignment

/-- The two sequences. -/
structure Sides where
  left : Array Nat
  right : Array Nat

/-- Where to look next: how far ways along diagonals have come, from either end. -/
structure Frontier where
  forward : Array Int
  backward : Array Int

namespace Sides

/-- How far two sequences are equal from some positions on. -/
def slideDown (s : Sides) (xLimit yLimit : Nat) : Nat → Nat → Nat → Nat
  | 0, x, _ => x
  | n + 1, x, y =>
    if x < xLimit ∧ y < yLimit ∧ s.left[x]? == s.right[y]? then
      slideDown s xLimit yLimit n (x + 1) (y + 1)
    else x

/-- The same before some positions. -/
def slideUp (s : Sides) (xLimit yLimit : Nat) : Nat → Nat → Nat → Nat
  | 0, x, _ => x
  | n + 1, x, y =>
    if xLimit < x ∧ yLimit < y ∧ s.left[x - 1]? == s.right[y - 1]? then
      slideUp s xLimit yLimit n (x - 1) (y - 1)
    else x

/-- A part of the table: rows of the left sequence and columns of the right one. -/
structure Box where
  left : Nat
  leftEnd : Nat
  right : Nat
  rightEnd : Nat

/-- A place on a shortest way through a box, in which neither part is empty and neither the first
nor the last lines are equal. Diagonals are counted from the lowest one of the table. -/
def middle (s : Sides) (b : Box) : Nat × Nat :=
  let shift : Int := s.right.size + 1
  let lowest : Int := b.left - b.rightEnd
  let highest : Int := b.leftEnd - b.right
  let first : Int := b.left - b.right
  let last : Int := b.leftEnd - b.rightEnd
  let isOdd := (first - last) % 2 != 0
  let size := s.left.size + s.right.size + 3
  let far : Int := 4611686018427387904
  let index (d : Int) : Nat := (d + shift).toNat
  let forward := (Array.replicate size (-1 : Int)).set! (index first) b.left
  let backward := (Array.replicate size far).set! (index last) b.leftEnd
  search s b shift lowest highest isOdd far size ⟨forward, backward⟩ first first last last
where
  /-- The diagonals that are looked at grow by one at either end, within the box. -/
  widened (ways : Array Int) (index : Int → Nat) (bound : Int) (low high lowest highest : Int) :
      Array Int × Int × Int :=
    let (ways, low) := if lowest < low then (ways.set! (index (low - 2)) bound, low - 1)
      else (ways, low + 1)
    let (ways, high) := if high < highest then (ways.set! (index (high + 2)) bound, high + 1)
      else (ways, high - 1)
    (ways, low, high)
  search (s : Sides) (b : Box) (shift lowest highest : Int) (isOdd : Bool) (far : Int) :
      Nat → Frontier → Int → Int → Int → Int → Nat × Nat
    | 0, _, _, _, _, _ => (b.left, b.right)
    | n + 1, f, fLow, fHigh, bLow, bHigh =>
      let index (d : Int) : Nat := (d + shift).toNat
      let (ways, fLow, fHigh) := widened f.forward index (-1) fLow fHigh lowest highest
      let backward := f.backward
      let (ways, met) := ((List.range ((fHigh - fLow) / 2 + 1).toNat).foldl
        (fun ((ways, met) : Array Int × Option (Nat × Nat)) k =>
          if met.isSome then (ways, met)
          else
            let d := fHigh - 2 * k
            let low := ways.getD (index (d - 1)) (-1)
            let high := ways.getD (index (d + 1)) (-1)
            let x0 := (if low < high then high else low + 1).toNat
            let x := slideDown s b.leftEnd b.rightEnd (s.left.size + 1) x0 (x0 - d).toNat
            let ways := ways.set! (index d) x
            let meets := isOdd && bLow ≤ d && d ≤ bHigh && backward.getD (index d) far ≤ x
            (ways, if meets then some (x, (x - d).toNat) else none))
        (ways, none))
      match met with
      | some place => place
      | none =>
        let forward := ways
        let (ways, bLow, bHigh) := widened backward index far bLow bHigh lowest highest
        let (ways, met) := ((List.range ((bHigh - bLow) / 2 + 1).toNat).foldl
          (fun ((ways, met) : Array Int × Option (Nat × Nat)) k =>
            if met.isSome then (ways, met)
            else
              let d := bHigh - 2 * k
              let low := ways.getD (index (d - 1)) far
              let high := ways.getD (index (d + 1)) far
              let x0 := (if low < high then low else high - 1).toNat
              let x := slideUp s b.left b.right (s.left.size + 1) x0 (x0 - d).toNat
              let ways := ways.set! (index d) x
              let meets := !isOdd && fLow ≤ d && d ≤ fHigh && (x : Int) ≤
                forward.getD (index d) (-1)
              (ways, if meets then some (x, (x - d).toNat) else none))
          (ways, none))
        match met with
        | some place => place
        | none => search s b shift lowest highest isOdd far n ⟨forward, ways⟩ fLow fHigh bLow bHigh

/-- The changed lines of a box, on the left and on the right. -/
def compare (s : Sides) : Nat → Box → List Nat × List Nat
  | 0, _ => ([], [])
  | n + 1, b =>
    let start := slideDown s b.leftEnd b.rightEnd (s.left.size + 1) b.left b.right
    let (left, right) := (start, b.right + (start - b.left))
    let leftEnd := slideUp s left right (s.left.size + 1) b.leftEnd b.rightEnd
    let rightEnd := b.rightEnd - (b.leftEnd - leftEnd)
    if left = leftEnd then ([], List.range' right (rightEnd - right))
    else if right = rightEnd then (List.range' left (leftEnd - left), [])
    else
      let (x, y) := middle s ⟨left, leftEnd, right, rightEnd⟩
      let (a, b) := compare s n ⟨left, x, right, y⟩
      let (c, d) := compare s n ⟨x, leftEnd, y, rightEnd⟩
      (a ++ c, b ++ d)

end Sides

/-- Whether a line is changed; outside of the sequence none is. -/
def isChanged (marks : Array Bool) (i : Int) : Bool := 0 ≤ i && marks.getD i.toNat false

/-- What changes while a block is moved: the marks, the block, the place beside its end in the other
sequence, and the last end at which it stood beside a block there. -/
structure Moving where
  marks : Array Bool
  start : Nat
  stop : Nat
  other : Int
  beside : Nat

namespace Moving

/-- The block moves up as long as the line before it equals its last one. -/
def up (lines : Array Nat) (others : Array Bool) : Nat → Moving → Moving
  | 0, m => m
  | n + 1, m =>
    if 0 < m.start ∧ lines[m.start - 1]? == lines[m.stop - 1]? then
      let marks := (m.marks.set! (m.start - 1) true).set! (m.stop - 1) false
      let start := backWhile marks (m.start - 1) (m.start - 1)
      up lines others n { m with
        marks := marks, start := start, stop := m.stop - 1,
        other := upOther others (m.other.toNat + 1) (m.other - 1) }
    else m
where
  backWhile (marks : Array Bool) : Nat → Nat → Nat
    | 0, i => i
    | n + 1, i => if isChanged marks ((i : Int) - 1) then backWhile marks n (i - 1) else i
  /-- The place before the changed lines of the other sequence. -/
  upOther (others : Array Bool) : Nat → Int → Int
    | 0, j => j
    | n + 1, j => if isChanged others j then upOther others n (j - 1) else j

/-- The block moves down as long as its first line equals the one after it. -/
def down (lines : Array Nat) (others : Array Bool) : Nat → Moving → Moving
  | 0, m => m
  | n + 1, m =>
    if m.stop < lines.size ∧ lines[m.start]? == lines[m.stop]? then
      let marks := (m.marks.set! m.start false).set! m.stop true
      let stop := onWhile marks lines.size (m.stop + 1)
      let (other, beside) := downOther others stop others.size (m.other + 1) m.beside
      down lines others n ⟨marks, m.start + 1, stop, other, beside⟩
    else m
where
  onWhile (marks : Array Bool) : Nat → Nat → Nat
    | 0, i => i
    | n + 1, i => if isChanged marks i then onWhile marks n (i + 1) else i
  downOther (others : Array Bool) (stop : Nat) : Nat → Int → Nat → Int × Nat
    | 0, j, beside => (j, beside)
    | n + 1, j, beside =>
      if isChanged others j then downOther others stop n (j + 1) stop
      else (j, beside)

/-- The block is moved up and down until it has met all blocks that it can meet. -/
def settle (lines : Array Nat) (others : Array Bool) : Nat → Moving → Moving
  | 0, m => m
  | n + 1, m =>
    let size := m.stop - m.start
    let raised := up lines others (lines.size + 1) m
    let raised := { raised with
      beside := if isChanged others (raised.other - 1) then raised.stop else lines.size }
    let lowered := down lines others (lines.size + 1) raised
    if lowered.stop - lowered.start = size then lowered else settle lines others n lowered

/-- The block is moved back to where it stands beside a block of the other sequence. -/
def back (others : Array Bool) : Nat → Moving → Moving
  | 0, m => m
  | n + 1, m =>
    if m.beside < m.stop then
      back others n { m with
        marks := (m.marks.set! (m.start - 1) true).set! (m.stop - 1) false
        start := m.start - 1, stop := m.stop - 1
        other := up.upOther others (m.other.toNat + 1) (m.other - 1) }
    else m

end Moving

/-- All blocks of one sequence are moved to where they stand best. -/
def shifted (lines : Array Nat) (others : Array Bool) : Nat → Nat → Int → Array Bool → Array Bool
  | 0, _, _, marks => marks
  | n + 1, i, j, marks =>
    if lines.size ≤ i then marks
    else if !isChanged marks i then
      shifted lines others n (i + 1) (afterBlock others others.size j + 1) marks
    else
      let stop := Moving.down.onWhile marks lines.size (i + 1)
      let m : Moving := ⟨marks, i, stop, afterBlock others others.size j, lines.size⟩
      let m := (m.settle lines others (lines.size + 2)).back others (lines.size + 1)
      shifted lines others n m.stop m.other m.marks
where
  /-- The place after the changed lines that begin at a place. -/
  afterBlock (others : Array Bool) : Nat → Int → Int
    | 0, j => j
    | n + 1, j => if isChanged others j then afterBlock others n (j + 1) else j

/-- The blocks of changed lines that marks tell. -/
def blocks (left right : Array Bool) : Nat → Nat → Nat → List Change
  | 0, _, _ => []
  | n + 1, i, j =>
    if left.size ≤ i ∧ right.size ≤ j then []
    else if isChanged left i || isChanged right j then
      let stop := Moving.down.onWhile left left.size i
      let otherStop := Moving.down.onWhile right right.size j
      ⟨i, j, stop - i, otherStop - j⟩ :: blocks left right n (stop + 1) (otherStop + 1)
    else blocks left right n (i + 1) (j + 1)

/-- Marks for the lines with some indices. -/
def marksOf (size : Nat) (indices : List Nat) : Array Bool :=
  indices.foldl (fun marks i => marks.set! i true) (Array.replicate size false)

/-- The changed lines of two sequences. Lines that are not in the other sequence at all are changed
in any case, and only the others are aligned. -/
def marks (left right : Array Nat) : Array Bool × Array Bool :=
  let kept (lines others : Array Nat) : Array Nat :=
    (Array.range lines.size).filter fun i => others.contains (lines.getD i 0)
  let keptLeft := kept left right
  let keptRight := kept right left
  let sides : Sides := ⟨keptLeft.map (left.getD · 0), keptRight.map (right.getD · 0)⟩
  let (a, b) := sides.compare (left.size + right.size + 1) ⟨0, sides.left.size, 0, sides.right.size⟩
  let only (size : Nat) (kept : Array Nat) (changed : List Nat) : Array Bool :=
    let same := kept.foldl (fun marks i => marks.set! i false) (Array.replicate size true)
    changed.foldl (fun marks k => marks.set! (kept.getD k 0) true) same
  (only left.size keptLeft a, only right.size keptRight b)

end Alignment

/-- The blocks of changed lines of two sequences, in order. Equal lines at both ends are left out
first, but for as many as are shown around changes. -/
def changesOf (context : Nat) (left right : Array Nat) : List Change :=
  let size := min left.size right.size
  let front := ((List.range size).find? fun i => left[i]? != right[i]?).getD size
  let back := ((List.range (size - front)).find? fun i =>
    left[left.size - 1 - i]? != right[right.size - 1 - i]?).getD (size - front)
  let front := front - context
  let back := back - context
  let lefts := left.extract front (left.size - back)
  let rights := right.extract front (right.size - back)
  let (a, b) := Alignment.marks lefts rights
  let a := Alignment.shifted lefts b (2 * lefts.size + 2) 0 0 a
  let b := Alignment.shifted rights a (2 * rights.size + 2) 0 0 b
  (Alignment.blocks a b (a.size + b.size + 1) 0 0).map fun c =>
    { c with before := c.before + front, after := c.after + front }

end CiHarness
