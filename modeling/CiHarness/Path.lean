import CiHarness.Text.Pieces
import CiHarness.Text.Quoted

/-!
# Paths

A path is a text, kept as it was given. Only paths that are Unicode text are covered: a file system
also has names of other bytes, which could not be shown without loss, while a path here is always
shown as it is. Its segments are the pieces between slashes; the components are the segments other
than the empty one and the single dot. The parent of an absolute path is what is left of its text
without the last component, and without the idle segments around it.
-/
namespace CiHarness

/-- A location in a file system, as it was written. -/
structure Path where
  text : String
  deriving DecidableEq

namespace Path

/-- A path is absolute if it begins with a slash. -/
def isAbsolute (p : Path) : Bool :=
  match p.text.toList with
  | '/' :: _ => true
  | _ => false

/-- An empty segment and a single dot name no new place. -/
def isIdle (segment : List Char) : Bool := segment.isEmpty || segment == ['.']

/-- The pieces between slashes. -/
def segments (p : Path) : List (List Char) := Text.pieces '/' p.text.toList

/-- The segments that name a place. -/
def components (p : Path) : List (List Char) := p.segments.filter (!isIdle ·)

/-- Idle segments at the end are dropped. -/
def dropIdleEnd (segments : List (List Char)) : List (List Char) :=
  (segments.reverse.dropWhile isIdle).reverse

/-- The segments without the last component, and without the idle ones around it; none if there is
no component. -/
def withoutLast? (segments : List (List Char)) : Option (List (List Char)) :=
  match segments.reverse.dropWhile isIdle with
  | [] => none
  | _ :: before => some (before.dropWhile isIdle).reverse

/-- The parent of an absolute path; none for a path without components. -/
def parent? (p : Path) : Option Path :=
  match p.text.toList with
  | '/' :: body =>
    (withoutLast? (Text.pieces '/' body)).map fun segments =>
      ⟨String.ofList ('/' :: Text.joinPieces '/' segments)⟩
  | _ => none

/-- A name is put after a path, with one slash between them. -/
def join (p : Path) (name : String) : Path :=
  if p.text.toList.getLast? = some '/' ∨ p.text.isEmpty then ⟨p.text ++ name⟩
  else ⟨p.text ++ "/" ++ name⟩

/-- The path between double quotes, on one line. -/
def quoted (p : Path) : String := Text.quoted p.text

end Path

end CiHarness
