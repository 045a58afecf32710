import ApexOutline.CommandLine
import ApexOutline.Json.Codec
import ApexOutline.Run
import ApexOutline.Settings.Load
import ApexOutline.Text.Fixed
/-!
# The program

A whole run from a command line and a tree of files to what is printed, what is logged, and the tree
afterwards. Only the report file is ever written.
-/

namespace ApexOutline

open Text

namespace Program

/-- How a run ends. -/
inductive Status where
  | done
  | failed (problem : Problem)
  /-- The command line is wrong. -/
  | misused
  deriving DecidableEq, Repr

/-- The exit code. -/
def Status.exitCode : Status → Nat
  | .done => 0
  | .failed _ => 1
  | .misused => 2

/-- What a run leaves behind. -/
structure Outcome where
  status : Status
  /-- What is printed. -/
  printed : Text := []
  log : Log := []
  tree : FileTree

/-- The name and the number of this release. -/
def release : Text :=
  "apex_scanner 0.1.0\n".toList

/-- How to use the program. -/
def usage : Text :=
  join ['\n'] <| [
    "Classify the declarations of Apex source files for documentation",
    "",
    "Usage: apex_scanner [OPTIONS] <INPUTS>...",
    "",
    "Arguments:",
    "  <INPUTS>...  Source files or directories to scan",
    "",
    "Options:",
    "  -c, --config <CONFIG>        Configuration file (TOML or YAML)",
    "  -s, --scope <SCOPES>         " ++
      "Scope to document, in precedence order; replaces configured scopes",
    "  -o, --output <OUTPUT>        Write the JSON report here instead of stdout",
    "      --max-files <MAX_FILES>  Maximum number of files to process",
    "      --threads <THREADS>      Number of parallel threads",
    "  -v, --verbose                Enable debug logging",
    "  -h, --help                   Print help",
    "  -V, --version                Print version",
    ""].map String.toList

/-- The settings that options leave of configured ones. -/
def override (options : Options) (configured : Settings) : Settings :=
  { configured with
    scopes := if options.scopes.isEmpty then configured.scopes else .ofKeywords options.scopes
    maxFiles := options.maxFiles <|> configured.maxFiles
    threads := options.threads <|> configured.threads
    verbose := configured.verbose || options.verbose }

/-- The settings of a run. -/
def settings (options : Options) (tree : FileTree) : Except Problem Settings :=
  match options.config with
  | none => .ok (override options {})
  | some path => (Settings.load tree path).map (override options)

/-- What is logged about the scopes before anything is read. -/
def scopeLog (scopes : ScopeList) : Log :=
  (if scopes.isEmpty then
    [.warn ["No scopes configured; only type declarations will be kept".toList]] else []) ++
  [.info ["Documenting scopes: ".toList, join ", ".toList scopes.keywords]]

/-- The last line of a run. -/
def closing (tally : Tally) : LogLine :=
  .info [countText tally.totalDeclarations, " declarations in ".toList,
    countText tally.filesWithDeclarations, " files (".toList, fixed 1 tally.successRate,
    "% read successfully)".toList]

/-- Delivers the text of a report, to a file or by printing it, and logs what is left to log. -/
def deliver (output : Option Path) (tree : FileTree) (log : Log) (tally : Tally) (text : Text) :
    Outcome :=
  match output with
  | none => { status := .done, printed := text ++ ['\n'], log := log ++ [closing tally], tree }
  | some path =>
    match tree.writeText path text with
    | (written, .error problem) => { status := .failed problem, log, tree := written }
    | (written, .ok ()) =>
      { status := .done, tree := written
        log := log ++ [.info ["Wrote report to ".toList, path], closing tally] }

/-- Runs with options, where `time` is when the report is made. -/
def runWith (time : Text) (options : Options) (tree : FileTree) : Outcome :=
  match settings options tree with
  | .error problem => { status := .failed problem, tree }
  | .ok settings =>
    let start := scopeLog settings.scopes
    match Run.overInputs settings tree options.inputs with
    | (log, .error problem) => { status := .failed problem, log := start ++ log, tree }
    | (log, .ok report) =>
      deliver options.output tree (start ++ log) report.tally (report.toJson time).render

/-- The files that a run with options takes on. Their paths do not depend on what they hold. -/
def sources (options : Options) (tree : FileTree) : List Path :=
  match settings options tree with
  | .error _ => []
  | .ok settings =>
    match collectAll tree settings.extensions options.inputs with
    | .error _ => []
    | .ok paths => Run.withinLimit settings paths

/-- Runs a command line. -/
def run (time : Text) (args : List Text) (tree : FileTree) : Outcome :=
  match Options.parse args with
  | .error .help => { status := .done, printed := usage, tree }
  | .error .version => { status := .done, printed := release, tree }
  | .error .misuse => { status := .misused, tree }
  | .ok options => runWith time options tree

end Program

end ApexOutline
