/-!
# Pieces of a text

A text is cut at every occurrence of a mark, or at the first one, and put together again with the
mark between its pieces. Cutting keeps empty pieces, so nothing is lost: a text with `n` marks has
`n + 1` pieces.
-/
namespace CiHarness.Text

/-- The pieces between the marks, empty ones included. -/
def pieces (mark : Char) : List Char → List (List Char)
  | [] => [[]]
  | c :: cs =>
    if c = mark then [] :: pieces mark cs
    else
      match pieces mark cs with
      | [] => [[c]]
      | p :: ps => (c :: p) :: ps

/-- The pieces with the mark between each two. -/
def joinPieces (mark : Char) : List (List Char) → List Char
  | [] => []
  | [p] => p
  | p :: ps => p ++ mark :: joinPieces mark ps

/-- What stands before the first mark, and what after it; none without a mark. -/
def cutFirst (mark : Char) : List Char → Option (List Char × List Char)
  | [] => none
  | c :: cs =>
    if c = mark then some ([], cs)
    else (cutFirst mark cs).map fun (before, after) => (c :: before, after)

/-- What stands before a byte position, and what from there on; none inside of a character or after
the end. -/
def cutAtByte : Nat → List Char → Option (List Char × List Char)
  | 0, cs => some ([], cs)
  | _ + 1, [] => none
  | n + 1, c :: cs =>
    if n + 1 < c.utf8Size then none
    else (cutAtByte (n + 1 - c.utf8Size) cs).map fun (before, after) => (c :: before, after)

/-- What stands between two byte positions. -/
def betweenBytes (start stop : Nat) (cs : List Char) : Option (List Char) :=
  (cutAtByte start cs).bind fun (_, rest) => (cutAtByte (stop - start) rest).map (·.1)

/-- The number of bytes of some characters. -/
def byteCount (cs : List Char) : Nat := cs.foldl (fun n c => n + c.utf8Size) 0

/-- The pieces of a text between the marks. -/
def split (mark : Char) (s : String) : List String :=
  (pieces mark s.toList).map String.ofList

/-- One text with the mark between each two pieces. -/
def join (mark : Char) (ss : List String) : String :=
  String.ofList (joinPieces mark (ss.map String.toList))

/-- Texts with another one between each two. -/
def joinWith (separator : String) : List String → String
  | [] => ""
  | [s] => s
  | s :: ss => s ++ separator ++ joinWith separator ss

/-- A text is cut at the first mark. -/
def splitOnce (mark : Char) (s : String) : Option (String × String) :=
  (cutFirst mark s.toList).map fun (before, after) => (String.ofList before, String.ofList after)

end CiHarness.Text
