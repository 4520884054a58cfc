/-!
# Causes

Why the operating system refuses an operation, why a program cannot be started, why a directory
cannot be the harness directory and why a container profile is refused. Each cause has one wording.
The constructors named `other` carry the words of somebody else.
-/
namespace CiHarness

/-- What the operating system answers to a failed call. -/
inductive SystemError where
  | noSuchEntry
  | argumentsTooLong
  | execFormat
  | accessDenied
  | notADirectory
  | isADirectory
  | nameTooLong
  | symlinkLoop
  deriving DecidableEq

namespace SystemError

/-- The number of the error. -/
def code : SystemError → Nat
  | .noSuchEntry => 2
  | .argumentsTooLong => 7
  | .execFormat => 8
  | .accessDenied => 13
  | .notADirectory => 20
  | .isADirectory => 21
  | .nameTooLong => 36
  | .symlinkLoop => 40

/-- All errors that are told apart. -/
def all : List SystemError :=
  [.noSuchEntry, .argumentsTooLong, .execFormat, .accessDenied, .notADirectory, .isADirectory,
    .nameTooLong, .symlinkLoop]

/-- The error of a number. -/
def ofCode? (n : Nat) : Option SystemError := all.find? (·.code == n)

/-- The words of the error without its number. -/
def words : SystemError → String
  | .noSuchEntry => "No such file or directory"
  | .argumentsTooLong => "Argument list too long"
  | .execFormat => "Exec format error"
  | .accessDenied => "Permission denied"
  | .notADirectory => "Not a directory"
  | .isADirectory => "Is a directory"
  | .nameTooLong => "File name too long"
  | .symlinkLoop => "Too many levels of symbolic links"

/-- The words of the error and its number. -/
def message (e : SystemError) : String := e.words ++ " (os error " ++ toString e.code ++ ")"

end SystemError

/-- The kind of an input or output error. -/
inductive ErrorKind where
  | notFound
  | permissionDenied
  | invalidInput
  | notADirectory
  | isADirectory
  | invalidFilename
  | filesystemLoop
  | argumentListTooLong
  | uncategorized
  | other
  deriving DecidableEq

/-- The kind of a system error. -/
def SystemError.kind : SystemError → ErrorKind
  | .noSuchEntry => .notFound
  | .argumentsTooLong => .argumentListTooLong
  | .execFormat => .uncategorized
  | .accessDenied => .permissionDenied
  | .notADirectory => .notADirectory
  | .isADirectory => .isADirectory
  | .nameTooLong => .invalidFilename
  | .symlinkLoop => .filesystemLoop

/-- Why a path names no place in a file system. -/
inductive LookupError where
  | system (e : SystemError)
  | nulByte
  deriving DecidableEq

/-- The wording of a failed look-up. -/
def LookupError.message : LookupError → String
  | .system e => e.message
  | .nulByte => "file name contained an unexpected NUL byte"

/-- Why a program was not started. -/
inductive StartError where
  | emptyCommand
  | nulByte
  | system (e : SystemError)
  | other (kind : ErrorKind) (words : String)
  deriving DecidableEq

namespace StartError

/-- The kind of the error; an empty command and a NUL are faults of the request. -/
def kind : StartError → ErrorKind
  | .emptyCommand => .invalidInput
  | .nulByte => .invalidInput
  | .system e => e.kind
  | .other kind _ => kind

/-- The wording of the error. -/
def message : StartError → String
  | .emptyCommand => "empty command"
  | .nulByte => "nul byte found in provided data"
  | .system e => e.message
  | .other _ words => words

end StartError

/-- Why a directory is no harness directory. -/
inductive LayoutFault where
  | notAbsolute
  | noParent
  | noManifest
  | lookup (e : LookupError)
  | other (words : String)
  deriving DecidableEq

/-- The file that marks the root of a project. -/
def manifestName : String := "Cargo.toml"

/-- The wording of a layout fault. -/
def LayoutFault.message : LayoutFault → String
  | .notAbsolute => "path is not absolute"
  | .noParent => "harness directory has no parent"
  | .noManifest => "parent directory has no " ++ manifestName ++ "; expected <project>/ci"
  | .lookup e => e.message
  | .other words => words

/-- Why a container profile is refused. -/
inductive ProfileFault where
  | emptyImage
  | relativeWorkdir
  | relativeMountTarget
  | relativeMountSource
  | relativeOutputDir
  | emptyShellToken
  | other (words : String)
  deriving DecidableEq

/-- The wording of a profile fault. -/
def ProfileFault.message : ProfileFault → String
  | .emptyImage => "image name is empty"
  | .relativeWorkdir => "container working directory must be absolute"
  | .relativeMountTarget => "mount target must be absolute"
  | .relativeMountSource => "mount source must be an absolute host path"
  | .relativeOutputDir => "container output directory must be absolute"
  | .emptyShellToken => "login shell tokens must be non-empty"
  | .other words => words

end CiHarness
