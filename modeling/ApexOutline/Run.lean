import ApexOutline.Batch
import ApexOutline.Collect
import ApexOutline.Digest
import ApexOutline.Report
import ApexOutline.Settings
import ApexOutline.Text.Digits
/-!
# Runs

A run outlines many files under one group of settings. It reports the files that could be read,
counts all of them, and logs what happens. A crew works on the files; which one does not show in the
report.
-/

namespace ApexOutline

open Text

/-- How much a log line matters. -/
inductive Level where
  | info
  | warn
  deriving DecidableEq, Repr

/-- A log line. -/
structure LogLine where
  level : Level
  message : Text
  deriving DecidableEq, Repr

/-- Log lines in order. -/
abbrev Log := List LogLine

/-- An informative line made of pieces. -/
def LogLine.info (pieces : List Text) : LogLine :=
  ⟨.info, pieces.flatten⟩

/-- A warning made of pieces. -/
def LogLine.warn (pieces : List Text) : LogLine :=
  ⟨.warn, pieces.flatten⟩

namespace Run

/-- Outlines one file. -/
def outlineFile (settings : Settings) (tree : FileTree) (path : Path) :
    Except Problem FileOutline := do
  let source ← tree.readSource path
  let outline := Outline.ofSource settings.scopes source
  return { path, contentHash := Digest.ofText source, declarations := outline.declarations,
           skippedLines := outline.skippedLines }

/-- The warning about a file that could not be read. -/
def warning (settings : Settings) (path : Path) (problem : Problem) : LogLine :=
  .warn (["Failed to scan file ".toList, path] ++
    if settings.verbose then [": ".toList, problem.longMessage] else [])

/-- The warnings about one file. -/
def warningsOf (settings : Settings) (path : Path) : Except Problem FileOutline → Log
  | .error problem => [warning settings path problem]
  | .ok _ => []

/-- The paths that are taken on under the limit. -/
def withinLimit (settings : Settings) (paths : List Path) : List Path :=
  match settings.maxFiles with
  | some limit => paths.take limit
  | none => paths

/-- The warning that the limit cuts files off. -/
def limitWarnings (settings : Settings) (paths : List Path) : Log :=
  match settings.maxFiles with
  | some limit =>
    if limit < paths.length then
      [.warn ["Limiting to ".toList, countText limit, " files out of ".toList,
        countText paths.length]]
    else []
  | none => []

/-- How many threads work: as many as the settings say, or one less than there are processors. -/
def threadCount (settings : Settings) (crew : Crew) : Nat :=
  settings.threads.getD (max 1 (crew.processors - 1))

/-- The outline of each file that is taken on, with its path. -/
def results (settings : Settings) (tree : FileTree) (paths : List Path) (crew : Crew := .single) :
    List (Path × Except Problem FileOutline) :=
  (crew.work (threadCount settings crew) (fun path => (path, outlineFile settings tree path))
    (withinLimit settings paths)).results

/-- A report after one more file. The total is not touched: all files are counted beforehand. -/
def record (report : Report) : Path × Except Problem FileOutline → Report
  | (_, .ok file) =>
    let tally := { report.tally with skippedLines := report.tally.skippedLines + file.skippedLines }
    { files := report.files ++ [file]
      tally :=
        if file.declarations.isEmpty then { tally with emptyFiles := tally.emptyFiles + 1 }
        else
          { tally with
            filesWithDeclarations := tally.filesWithDeclarations + 1
            totalDeclarations := tally.totalDeclarations + file.declarations.length } }
  | (path, .error _) =>
    { report with
      tally :=
        { report.tally with
          errorFiles := report.tally.errorFiles + 1
          errorFilePaths := report.tally.errorFilePaths ++ [path] } }

/-- The report on some files. -/
def report (settings : Settings) (tree : FileTree) (paths : List Path) (crew : Crew := .single) :
    Report :=
  let found := results settings tree paths crew
  found.foldl record { files := [], tally := { totalFiles := found.length } }

/-- The last line of a run over files. -/
def summary (tally : Tally) : LogLine :=
  .info ["Processed ".toList, countText tally.totalFiles, " files, found ".toList,
    countText tally.totalDeclarations, " declarations (".toList, countText tally.errorFiles,
    " errors)".toList]

/-- Outlines the files at some paths. -/
def overFiles (settings : Settings) (tree : FileTree) (paths : List Path) (crew : Crew := .single) :
    Log × Report :=
  let outcome := report settings tree paths crew
  let log :=
    [.info ["Processing ".toList, countText paths.length, " files".toList]] ++
      limitWarnings settings paths ++
      (results settings tree paths crew).flatMap (fun r => warningsOf settings r.1 r.2) ++
      [summary outcome.tally]
  (log, outcome)

/-- Outlines files that were collected. -/
def overCollected (settings : Settings) (tree : FileTree) (paths : List Path)
    (crew : Crew := .single) : Log × Report :=
  let (log, outcome) := overFiles settings tree paths crew
  (.info ["Found ".toList, countText paths.length, " files to process".toList] :: log, outcome)

/-- Outlines the files that one input stands for. -/
def overInput (settings : Settings) (tree : FileTree) (input : Path) (crew : Crew := .single) :
    Log × Except Problem Report :=
  let start : LogLine := .info ["Scanning: ".toList, input]
  match collectFiles tree settings.extensions input with
  | .error problem => ([start], .error problem)
  | .ok paths =>
    let (log, outcome) := overCollected settings tree paths crew
    (start :: log, .ok outcome)

/-- Outlines the files that some inputs stand for. No file is read when an input leads nowhere. -/
def overInputs (settings : Settings) (tree : FileTree) (inputs : List Path) (crew : Crew := .single) :
    Log × Except Problem Report :=
  match collectAll tree settings.extensions inputs with
  | .error problem => ([], .error problem)
  | .ok paths =>
    let (log, outcome) := overCollected settings tree paths crew
    (log, .ok outcome)

end Run

end ApexOutline
