import ApexOutline.Text.Basic
/-!
# Tallies

The statistics of a run. Tallies of parts of a run merge into the tally of the whole.
-/

namespace ApexOutline

/-- Statistics of a run. -/
structure Tally where
  /-- Files that were taken on. -/
  totalFiles : Nat := 0
  /-- Files without a declaration. -/
  emptyFiles : Nat := 0
  /-- Files with a declaration. -/
  filesWithDeclarations : Nat := 0
  /-- Files that could not be read. -/
  errorFiles : Nat := 0
  /-- Their paths. -/
  errorFilePaths : List Text := []
  totalDeclarations : Nat := 0
  /-- Code lines without a declaration. -/
  skippedLines : Nat := 0
  deriving DecidableEq, Repr

namespace Tally

/-- The tally of two parts of a run together. -/
def merge (s t : Tally) : Tally where
  totalFiles := s.totalFiles + t.totalFiles
  emptyFiles := s.emptyFiles + t.emptyFiles
  filesWithDeclarations := s.filesWithDeclarations + t.filesWithDeclarations
  errorFiles := s.errorFiles + t.errorFiles
  errorFilePaths := s.errorFilePaths ++ t.errorFilePaths
  totalDeclarations := s.totalDeclarations + t.totalDeclarations
  skippedLines := s.skippedLines + t.skippedLines

/-- A count as a floating-point number, rounded to the nearest. -/
def toFloat (n : Nat) : Float :=
  n.toUInt64.toFloat

/-- The percentage of files that were read. -/
def successRate (t : Tally) : Float :=
  if t.totalFiles = 0 then 0
  else toFloat (t.totalFiles - t.errorFiles) / toFloat t.totalFiles * 100

/-- The mean number of declarations of the files that have any. -/
def declarationsPerFile (t : Tally) : Float :=
  if t.filesWithDeclarations = 0 then 0
  else toFloat t.totalDeclarations / toFloat t.filesWithDeclarations

end Tally

end ApexOutline
