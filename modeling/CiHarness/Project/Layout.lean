import CiHarness.Failure

/-!
# Project layout

A project is a directory with a manifest; the harness directory lies directly below it. A layout is
made from the harness directory alone, whose parent is the project root: either from its text, or by
looking it up in a file system, where it must exist and its parent must hold the manifest. What the
file system answers is a parameter; nothing else is known about it here.
-/
namespace CiHarness

/-- The questions that are put to a file system. -/
structure FileView where
  /-- The absolute path of an existing place, without links, `.` and `..`. -/
  canonicalize : Path → Except LookupError Path
  /-- Whether a path leads to a regular file, links followed. -/
  isFile : Path → Bool
  /-- Whether a path leads to a directory, links followed. -/
  isDirectory : Path → Bool

/-- The two host directories that containers mount. -/
structure Layout where
  projectRoot : Path
  ciDir : Path
  deriving DecidableEq

namespace Layout

/-- The layout of an absolute harness directory, from its text alone. -/
def ofCiDir (ciDir : Path) : Except Failure Layout :=
  if ciDir.isAbsolute then
    match ciDir.parent? with
    | some root => .ok ⟨root, ciDir⟩
    | none => .error (.invalidPath ciDir .noParent)
  else .error (.invalidPath ciDir .notAbsolute)

/-- Where the manifest of a layout's project lies. -/
def manifest (l : Layout) : Path := l.projectRoot.join manifestName

/-- The layout of a harness directory that exists below a project. A path that leads nowhere is
reported as it was given, every later fault with the canonical path. -/
def resolve (files : FileView) (ciDir : Path) : Except Failure Layout :=
  match files.canonicalize ciDir with
  | .error e => .error (.invalidPath ciDir (.lookup e))
  | .ok canonical =>
    match ofCiDir canonical with
    | .error failure => .error failure
    | .ok layout =>
      if files.isFile layout.manifest then .ok layout
      else .error (.invalidPath layout.ciDir .noManifest)

end Layout

end CiHarness
