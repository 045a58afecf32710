import ApexOutline.Outline.Basic
import ApexOutline.Tally
/-!
# Reports

What a run yields: the outline of every file that could be read, and the tally.
-/

namespace ApexOutline

/-- The outline of a file. -/
structure FileOutline where
  path : Text
  /-- The digest of the text that was read. -/
  contentHash : Text
  declarations : List Declaration
  skippedLines : Nat
  deriving DecidableEq, Repr

/-- The result of a run. -/
structure Report where
  files : List FileOutline
  tally : Tally
  deriving DecidableEq, Repr

/-- All declarations of a report in order. -/
def Report.declarations (report : Report) : List Declaration :=
  report.files.flatMap (·.declarations)

end ApexOutline
