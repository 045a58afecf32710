import ApexOutline.Run
import Mathlib
/-!
# What a report accounts for

Whatever crew works on a batch, every result ends up in the place of its file (`Crew.work_results`), so a
report is made of the outlines of the files that were taken on, in their order. It is made by recording
one outline after the other; `Accounts` ties its counters and lists together, `accounts_record` says what
one more file preserves, and `accounts_report` what a whole run amounts to.
-/

namespace ApexOutline

open Text

/-! ## Batches -/

namespace Batch

variable {α : Type} {work : Path → α} {paths : List Path} {drawn : Bool} {batch : Batch α}

/-- The places of the finished files hold the results, and the other places are free. -/
def Fills (work : Path → α) (paths : List Path) (finished : List Nat) (batch : Batch α) : Prop :=
  ∀ i, batch.places[i]? = paths[i]?.map fun path => if i ∈ finished then some (work path) else none

theorem fills_start (work : Path → α) (paths : List Path) : Fills work paths [] (start paths.length) := by
  intro i
  by_cases hi : i < paths.length
  · simp [start, hi]
  · simp [start, hi]

theorem Fills.finish {finished : List Nat} (h : Fills work paths finished batch) (drawn : Bool)
    (index : Nat) : Fills work paths (finished ++ [index]) (batch.finish work paths drawn index) := by
  intro i
  unfold Batch.finish
  cases hpath : paths[index]? with
  | none =>
    rw [h i]
    by_cases hi : i = index
    · simp [hi, hpath]
    · simp [hi]
  | some path =>
    simp only [List.getElem?_set]
    by_cases hi : index = i
    · subst hi
      have hplace := h index
      rw [hpath] at hplace
      have hlt : index < batch.places.length := (List.getElem?_eq_some_iff.1 hplace).1
      simp [hpath, hlt]
    · rw [if_neg hi, h i]
      simp [Ne.symm hi]

theorem Fills.foldl {finished : List Nat} (h : Fills work paths finished batch) (drawn : Bool)
    (order : List Nat) :
    Fills work paths (finished ++ order) (order.foldl (Batch.finish work paths drawn) batch) := by
  induction order generalizing finished batch with
  | nil => simpa using h
  | cons index order ih =>
    have hstep := ih (h.finish drawn index)
    rwa [List.append_assoc] at hstep

theorem Fills.results_eq {finished : List Nat} (h : Fills work paths finished batch)
    (hall : ∀ i < paths.length, i ∈ finished) : batch.results = paths.map work := by
  have hplaces : batch.places = paths.map fun path => some (work path) := by
    apply List.ext_getElem?
    intro i
    rw [h i, List.getElem?_map]
    cases hpath : paths[i]? with
    | none => rfl
    | some path => simp [hall i (List.getElem?_eq_some_iff.1 hpath).1]
  simp [results, hplaces, List.filterMap_map]

end Batch

/-- The results stand in the order of the files, whoever works on them. -/
theorem Crew.work_results {α : Type} (crew : Crew) (threads : Nat) (operation : Path → α)
    (paths : List Path) : (crew.work threads operation paths).results = paths.map operation := by
  have hfills := (Batch.fills_start operation paths).foldl (crew.drawsBar paths.length)
    (crew.order threads paths.length)
  refine hfills.results_eq fun i hi => ?_
  rw [List.nil_append, (crew.once threads paths.length).mem_iff]
  exact List.mem_range.2 hi

/-- The tally counts every file once, and lists as many files as it counts errors. -/
structure Tally.Balanced (tally : Tally) : Prop where
  totalFiles : tally.totalFiles = tally.emptyFiles + tally.filesWithDeclarations + tally.errorFiles
  errorFiles : tally.errorFiles = tally.errorFilePaths.length

namespace Run

/-! ## Files -/

theorem results_eq (settings : Settings) (tree : FileTree) (paths : List Path) (crew : Crew) :
    results settings tree paths crew =
      (withinLimit settings paths).map fun path => (path, outlineFile settings tree path) :=
  crew.work_results _ _ _

theorem withinLimit_eq (settings : Settings) (paths : List Path) :
    withinLimit settings paths =
      paths.take (min paths.length (settings.maxFiles.getD paths.length)) := by
  unfold withinLimit
  cases settings.maxFiles with
  | none => simp
  | some limit => simp [List.take_eq_take_iff, Nat.min_comm]

theorem outlineFile_of_readSource {settings : Settings} {tree : FileTree} {path : Path} {source : Text}
    (h : tree.readSource path = .ok source) : outlineFile settings tree path =
      .ok { path, contentHash := Digest.ofText source,
            declarations := (Outline.ofSource settings.scopes source).declarations,
            skippedLines := (Outline.ofSource settings.scopes source).skippedLines } := by
  unfold outlineFile
  rw [h]
  rfl

/-- A file is outlined exactly when it can be read. -/
theorem isOk_outlineFile (settings : Settings) (tree : FileTree) (path : Path) :
    (outlineFile settings tree path).isOk = (tree.read path).isOk := by
  unfold outlineFile FileTree.readSource
  cases tree.read path <;> rfl

theorem path_of_outlineFile {settings : Settings} {tree : FileTree} {path : Path} {file : FileOutline}
    (h : outlineFile settings tree path = .ok file) : file.path = path := by
  obtain ⟨source, -, h⟩ := FileTree.exists_of_bind_eq_ok h
  cases h
  rfl

/-! ## Reports -/

/-- What a report says about the files at `taken`, when each of them is accounted for exactly once. -/
structure Accounts (settings : Settings) (tree : FileTree) (taken : List Path) (report : Report) :
    Prop where
  /-- A file is without a declaration, or has one, or could not be read. -/
  balance : taken.length = report.tally.emptyFiles + report.tally.filesWithDeclarations +
    report.tally.errorFiles
  errorFiles : report.tally.errorFiles = report.tally.errorFilePaths.length
  files_length : report.files.length = report.tally.emptyFiles + report.tally.filesWithDeclarations
  /-- The files that can be read are outlined, in their order. -/
  files_paths : report.files.map (·.path) = taken.filter fun path => (tree.read path).isOk
  /-- The others are listed, in their order. -/
  errorFilePaths : report.tally.errorFilePaths = taken.filter fun path => !(tree.read path).isOk
  emptyFiles : report.tally.emptyFiles = report.files.countP (·.declarations.isEmpty)
  totalDeclarations :
    report.tally.totalDeclarations = (report.files.map (·.declarations.length)).sum
  skippedLines : report.tally.skippedLines = (report.files.map (·.skippedLines)).sum
  /-- What is said of a file is its outline. -/
  outlined : ∀ file ∈ report.files, outlineFile settings tree file.path = .ok file

variable {settings : Settings} {tree : FileTree} {taken : List Path} {report : Report}

theorem accounts_nil (settings : Settings) (tree : FileTree) (total : Nat) :
    Accounts settings tree [] { files := [], tally := { totalFiles := total } } := by
  constructor <;> simp

/-- One more file is accounted for. -/
theorem accounts_record (h : Accounts settings tree taken report) (path : Path) :
    Accounts settings tree (taken ++ [path])
      (record report (path, outlineFile settings tree path)) := by
  have hread := isOk_outlineFile settings tree path
  cases hfile : outlineFile settings tree path with
  | error problem =>
    rw [hfile] at hread
    replace hread : (tree.read path).isOk = false := hread.symm
    exact
      { balance := by simp [record, h.balance]; omega
        errorFiles := by simp [record, h.errorFiles]
        files_length := h.files_length
        files_paths := by simp [record, h.files_paths, hread]
        errorFilePaths := by simp [record, h.errorFilePaths, hread]
        emptyFiles := h.emptyFiles
        totalDeclarations := h.totalDeclarations
        skippedLines := h.skippedLines
        outlined := h.outlined }
  | ok file =>
    rw [hfile] at hread
    replace hread : (tree.read path).isOk = true := hread.symm
    have hpath := path_of_outlineFile hfile
    have houtlined : ∀ f ∈ report.files ++ [file], outlineFile settings tree f.path = .ok f := by
      intro f hf
      rcases List.mem_append.1 hf with hf | hf
      · exact h.outlined f hf
      · rw [List.mem_singleton.1 hf, hpath, hfile]
    exact
      { balance := by
          simp only [record, List.length_append, h.balance]
          split <;> simp only [List.length_singleton] <;> omega
        errorFiles := by
          simp only [record]
          split <;> exact h.errorFiles
        files_length := by
          simp only [record, List.length_append, h.files_length]
          split <;> simp only [List.length_singleton] <;> omega
        files_paths := by simp [record, h.files_paths, hread, hpath]
        errorFilePaths := by
          simp only [record]
          split <;> simp [h.errorFilePaths, hread]
        emptyFiles := by
          simp only [record, List.countP_append, ← h.emptyFiles]
          split <;> rename_i hempty <;> simp [hempty]
        totalDeclarations := by
          simp only [record, List.map_append, List.sum_append, ← h.totalDeclarations]
          split <;> rename_i hempty
          · simp [List.isEmpty_iff.1 hempty]
          · simp
        skippedLines := by
          simp only [record, List.map_append, List.sum_append, ← h.skippedLines]
          split <;> simp
        outlined := houtlined }

theorem accounts_foldl (h : Accounts settings tree taken report) (paths : List Path) :
    Accounts settings tree (taken ++ paths)
      ((paths.map fun path => (path, outlineFile settings tree path)).foldl record report) := by
  induction paths generalizing taken report with
  | nil => simpa using h
  | cons path paths ih =>
    have hrest := ih (accounts_record h path)
    rwa [List.append_assoc] at hrest

theorem totalFiles_foldl (report : Report) (found : List (Path × Except Problem FileOutline)) :
    (found.foldl record report).tally.totalFiles = report.tally.totalFiles := by
  induction found generalizing report with
  | nil => rfl
  | cons outcome found ih =>
    rw [List.foldl_cons, ih]
    obtain ⟨path, problem | file⟩ := outcome
    · rfl
    · simp only [record]
      split <;> rfl

/-- The report is made of the files that are taken on, whoever works on them. -/
theorem report_eq (settings : Settings) (tree : FileTree) (paths : List Path) (crew : Crew) :
    Run.report settings tree paths crew =
      ((withinLimit settings paths).map fun path => (path, outlineFile settings tree path)).foldl record
        { files := [], tally := { totalFiles := (withinLimit settings paths).length } } := by
  simp only [Run.report, results_eq, List.length_map]

theorem accounts_report (settings : Settings) (tree : FileTree) (paths : List Path) (crew : Crew) :
    Accounts settings tree (withinLimit settings paths) (Run.report settings tree paths crew) := by
  rw [report_eq]
  exact accounts_foldl (accounts_nil settings tree _) _

/-- The outlined files and the listed ones are those that were taken on. -/
theorem Accounts.perm (h : Accounts settings tree taken report) :
    (report.files.map (·.path) ++ report.tally.errorFilePaths).Perm taken := by
  rw [h.files_paths, h.errorFilePaths]
  exact List.filter_append_perm _ taken

/-- A file that is taken on is reported with its outline, whatever else is. -/
theorem Accounts.mem_files (h : Accounts settings tree taken report) {file : FileOutline}
    (hfile : outlineFile settings tree file.path = .ok file) (htaken : file.path ∈ taken) :
    file ∈ report.files := by
  have hread := isOk_outlineFile settings tree file.path
  rw [hfile] at hread
  have hpath : file.path ∈ report.files.map (·.path) := by
    rw [h.files_paths]
    exact List.mem_filter.2 ⟨htaken, hread.symm⟩
  obtain ⟨other, hother, heq⟩ := List.mem_map.1 hpath
  have hsame := h.outlined other hother
  rw [heq, hfile] at hsame
  cases hsame
  exact hother

theorem totalFiles_report (settings : Settings) (tree : FileTree) (paths : List Path) (crew : Crew) :
    (Run.report settings tree paths crew).tally.totalFiles = (withinLimit settings paths).length := by
  rw [report_eq, totalFiles_foldl]

theorem balanced_report (settings : Settings) (tree : FileTree) (paths : List Path) (crew : Crew) :
    (Run.report settings tree paths crew).tally.Balanced where
  totalFiles := by
    rw [totalFiles_report]
    exact (accounts_report settings tree paths crew).balance
  errorFiles := (accounts_report settings tree paths crew).errorFiles

/-- A run over files loses and doubles nothing. Of the paths, those within the limit are taken on. The
report accounts for each of them once; it is the same for every crew and every number of threads; and
what it says of a file is the same in a run over any other files. -/
theorem overFiles_accounts (settings : Settings) (tree : FileTree) (paths : List Path) (crew : Crew) :
    let size := min paths.length (settings.maxFiles.getD paths.length)
    let report := (overFiles settings tree paths crew).2
    report.tally.totalFiles = size ∧ report.tally.Balanced ∧
      Accounts settings tree (paths.take size) report ∧
      (∀ crew' threads, (overFiles { settings with threads } tree paths crew').2 = report) ∧
      ∀ file ∈ report.files, ∀ paths' crew', file.path ∈ withinLimit settings paths' →
        file ∈ (overFiles settings tree paths' crew').2.files := by
  intro size report
  have haccounts := accounts_report settings tree paths crew
  refine ⟨?_, balanced_report settings tree paths crew, ?_, ?_, ?_⟩
  · rw [show report = Run.report settings tree paths crew from rfl, totalFiles_report, withinLimit_eq,
      List.length_take]
    exact Nat.min_eq_left (Nat.min_le_left _ _)
  · rwa [withinLimit_eq] at haccounts
  · intro crew' threads
    change Run.report { settings with threads } tree paths crew' = Run.report settings tree paths crew
    rw [report_eq, report_eq]
    rfl
  · intro file hfile paths' crew' htaken
    exact (accounts_report settings tree paths' crew').mem_files (haccounts.outlined file hfile) htaken

/-- A file with a declaration and a file with nothing in it. -/
def smallTree : FileTree where
  entries := [(["A.cls".toList], .file (encodeUtf8 "class A \x7b\x7d".toList)),
    (["B.cls".toList], .file [])]
  distinct := by decide
  named := by decide

/-- Some threads that finish the last file first. -/
def backwards : Crew where
  hidden := true
  processors := 4
  order _ size := (List.range size).reverse
  once _ _ := List.reverse_perm _

/-- Four paths with a limit of three: two files can be read and one cannot. -/
theorem overFiles_accounts_small :
    let paths := ["A.cls".toList, "gone.cls".toList, "B.cls".toList, "A.cls".toList]
    let report := (overFiles { maxFiles := some 3 } smallTree paths backwards).2
    report.tally.totalFiles = 3 ∧ report.files.map (·.path) = ["A.cls".toList, "B.cls".toList] ∧
      report.tally.errorFilePaths = ["gone.cls".toList] := by
  intro paths report
  obtain ⟨htotal, -, haccounts, -⟩ := overFiles_accounts { maxFiles := some 3 } smallTree paths backwards
  refine ⟨htotal.trans (by decide), haccounts.files_paths.trans ?_, haccounts.errorFilePaths.trans ?_⟩
  · cbv
  · cbv

end Run

end ApexOutline
