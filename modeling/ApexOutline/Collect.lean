import ApexOutline.FileTree.Walk
import ApexOutline.Problem
/-!
# Collecting source files

An input is a file or a directory. A file stands for itself and a directory for all files below it;
only files with a wanted extension count.
-/

namespace ApexOutline

open Text

/-- The files that an input stands for, in path order. -/
def collectFiles (tree : FileTree) (extensions : List Text) (input : Path) :
    Except Problem (List Path) :=
  match tree.locate input with
  | .error _ => .error (.missingInput input)
  | .ok here =>
    match tree.get? here with
    | none => .error (.missingInput input)
    | some (.file _) => .ok (if input.hasExtension extensions then [input] else [])
    | some _ => .ok (Path.sort ((tree.walk [here] here input).filter (·.hasExtension extensions)))

/-- The files that some inputs stand for, each path once and in path order. The first input that
leads nowhere is reported. -/
def collectAll (tree : FileTree) (extensions : List Text) (inputs : List Path) :
    Except Problem (List Path) := do
  let found ← inputs.mapM (collectFiles tree extensions)
  return Path.dedup (Path.sort found.flatten)

/-- Adds an extension unless it is there in some ASCII case. -/
def addExtension (extensions : List Text) (extension : Text) : List Text :=
  if extensions.any (eqIgnoringAsciiCase · extension) then extensions
  else extensions ++ [extension]

end ApexOutline
