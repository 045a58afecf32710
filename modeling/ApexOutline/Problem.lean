import ApexOutline.FileTree.Basic
/-!
# Problems

Why a run, or a part of it, fails. Every problem has one message; a problem with files also has a
cause, which the long form of the message tells.
-/

namespace ApexOutline

/-- Why a run or a part of it fails. -/
inductive Problem where
  | unreadable (path : Path) (cause : FileError)
  | unwritable (path : Path) (cause : FileError)
  | noDirectory (path : Path) (cause : FileError)
  /-- An input that leads nowhere. -/
  | missingInput (path : Path)
  /-- A configuration file that is no TOML or does not fit the settings. -/
  | invalidToml (path : Path)
  /-- A configuration file that is no YAML or does not fit the settings. -/
  | invalidYaml (path : Path)
  /-- A configuration file with another extension, in lowercase. -/
  | unsupportedFormat (extension : Text) (path : Path)
  deriving DecidableEq, Repr

namespace Problem

/-- What a problem is. -/
def message : Problem → Text
  | .unreadable path _ => "Failed to read file ".toList ++ path
  | .unwritable path _ => "Failed to write file ".toList ++ path
  | .noDirectory path _ => "Failed to create directory ".toList ++ path
  | .missingInput path => "Input path does not exist: ".toList ++ path
  | .invalidToml path => "Invalid TOML configuration in ".toList ++ path
  | .invalidYaml path => "Invalid YAML configuration in ".toList ++ path
  | .unsupportedFormat extension path =>
    "Unsupported configuration format '".toList ++ extension ++ "' for ".toList ++ path

/-- The cause that lies with the files. -/
def cause? : Problem → Option FileError
  | .unreadable _ cause => some cause
  | .unwritable _ cause => some cause
  | .noDirectory _ cause => some cause
  | _ => none

/-- The message and the cause. -/
def longMessage (problem : Problem) : Text :=
  match problem.cause? with
  | some cause => problem.message ++ ": ".toList ++ cause.message.toList
  | none => problem.message

end Problem

namespace FileTree

open Text

/-- Reads a text file, which must be UTF-8. -/
def readText (tree : FileTree) (p : Path) : Except Problem Text :=
  match tree.read p with
  | .error cause => .error (.unreadable p cause)
  | .ok content =>
    match decodeUtf8? content with
    | some t => .ok t
    | none => .error (.unreadable p .notUtf8)

/-- Reads a source file; bytes that are not UTF-8 are replaced. -/
def readSource (tree : FileTree) (p : Path) : Except Problem Text :=
  match tree.read p with
  | .error cause => .error (.unreadable p cause)
  | .ok content => .ok (decodeLossy content)

/-- Makes a directory unless the path leads somewhere already. -/
def ensureDirectory (tree : FileTree) (p : Path) : FileTree × Except Problem Unit :=
  if tree.contains p then (tree, .ok ())
  else
    match tree.createDirectories p with
    | (made, none) => (made, .ok ())
    | (made, some cause) => (made, .error (.noDirectory p cause))

/-- Writes a text file, the directories above it included. -/
def writeText (tree : FileTree) (p : Path) (t : Text) : FileTree × Except Problem Unit :=
  let above : FileTree × Except Problem Unit :=
    match p.parent? with
    | some parent => if parent.isEmpty then (tree, .ok ()) else tree.ensureDirectory parent
    | none => (tree, .ok ())
  match above with
  | (made, .error problem) => (made, .error problem)
  | (made, .ok ()) =>
    match made.write p (encodeUtf8 t) with
    | .ok written => (written, .ok ())
    | .error cause => (made, .error (.unwritable p cause))

end FileTree

end ApexOutline
