import ApexOutline.Program
import Std.Time
/-!
# The executable

Takes a snapshot of what the paths on the command line lead to, runs the program on it, and does what
the outcome says: prints, logs, and writes the report. File contents are loaded only where the run
looks at them.
-/

namespace ApexOutline.Executable

open Text

/-- What has been taken from the disk. -/
structure Snapshot where
  /-- The entries, with files that are still empty. -/
  tree : FileTree := .empty
  /-- The directories of which everything below has been taken. -/
  complete : List Location := []

/-- The absolute path of a location. -/
def pathOf (here : Location) : Path :=
  '/' :: join ['/'] here

/-- What an action yields, unless it fails. -/
def attempt {α : Type} (action : IO α) : IO (Option α) :=
  try return some (← action) catch _ => return none

/-- Takes an entry. -/
def Snapshot.put (taken : Snapshot) (here : Location) (entry : FileTree.Entry) : Snapshot :=
  { taken with tree := (taken.tree.create (pathOf here) entry).toOption.getD taken.tree }

/-- Takes the entries that parts lead through from the directory `here`, and if `whole` is set
everything below the directory that they lead to. A link is taken with the place where it ends up. -/
partial def Snapshot.follow (taken : Snapshot) (whole : Bool) (here : Location) (parts : List Text) :
    IO Snapshot := do
  let onDisk (here : Location) := return (← IO.currentDir) / String.ofList (pathOf here)
  match parts with
  | [] =>
    if !whole || taken.complete.contains here then return taken
    let entries ← attempt do (← onDisk here).readDir
    (entries.getD #[]).foldlM (fun taken entry => taken.follow whole here [entry.fileName.toList])
      { taken with complete := here :: taken.complete }
  | ['.'] :: rest => taken.follow whole here rest
  | ['.', '.'] :: rest => taken.follow whole here.dropLast rest
  | part :: rest =>
    let there := here ++ [part]
    match ← attempt do return (← (← onDisk there).symlinkMetadata).type with
    | some .dir => (taken.put there .directory).follow whole there rest
    | some .file => return taken.put there (.file [])
    | some .symlink =>
      match ← attempt do return (← IO.FS.realPath (← onDisk there)).toString.toList with
      | some target => (taken.put there (.link target)).follow whole [] (Path.parts target ++ rest)
      | none => return taken
    | some .other | none => return taken

/-- What the paths of some options lead to, with empty files. -/
def snapshot (options : Options) : IO FileTree := do
  let current := Path.parts (← IO.FS.realPath (← IO.currentDir)).toString.toList
  let taken ← ({} : Snapshot).follow false [] current
  let start := { taken with tree := (taken.tree.enter? current).getD taken.tree }
  let take (whole : Bool) (taken : Snapshot) (p : Path) : IO Snapshot :=
    taken.follow whole (FileTree.startOf current p) p.parts
  let taken ← (options.config.toList ++ options.output.toList).foldlM (take false) start
  return (← options.inputs.foldlM (take true) taken).tree

/-- Loads the contents of some files. -/
def loadFiles (tree : FileTree) (paths : List Path) : IO FileTree :=
  paths.foldlM (fun tree path => do
    if tree.isFile path then
      let content ← IO.FS.readBinFile (String.ofList path)
      return (tree.write path content.toList).toOption.getD tree
    else return tree) tree

/-- The tree that a run with options looks at. -/
def treeFor (options : Options) : IO FileTree := do
  let configured ← loadFiles (← snapshot options) options.config.toList
  loadFiles configured (Program.sources options configured)

/-- The present time in universal time. -/
def now : IO Text := do
  let time := Std.Time.DateTime.ofTimestamp (← Std.Time.Timestamp.now) .UTC
  return (time.format "uuuu-MM-dd'T'HH:mm:ss.SSSSSSSSS'Z'").toList

/-- Writes a log line to standard error. -/
def writeLine (line : LogLine) : IO Unit :=
  let level := match line.level with
    | .info => "INFO "
    | .warn => "WARN "
  IO.eprintln (level ++ String.ofList line.message)

/-- Writes the file that a run has written to its tree. -/
def writeOutput (tree : FileTree) (path : Path) : IO Unit := do
  match tree.read path with
  | .error _ => pure ()
  | .ok content =>
    if let some parent := path.parent? then
      if !parent.isEmpty then IO.FS.createDirAll (String.ofList parent)
    IO.FS.writeBinFile (String.ofList path) (ByteArray.mk content.toArray)

/-- Does what an outcome says. -/
def finish (output : Option Path) (outcome : Program.Outcome) : IO UInt32 := do
  outcome.log.forM writeLine
  IO.print (String.ofList outcome.printed)
  match outcome.status with
  | .done => output.forM (writeOutput outcome.tree)
  | .failed problem => IO.eprintln ("Error: " ++ String.ofList problem.longMessage)
  | .misused => IO.eprintln "error: invalid arguments\n\nFor more information, try '--help'."
  return outcome.status.exitCode.toUInt32

end ApexOutline.Executable

open ApexOutline Executable in
/-- Runs the command line. -/
def main (args : List String) : IO UInt32 := do
  let args := args.map String.toList
  let time ← now
  match Options.parse args with
  | .error _ => finish none (Program.run time args .empty)
  | .ok options => finish options.output (Program.run time args (← treeFor options))
