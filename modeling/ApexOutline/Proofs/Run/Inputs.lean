import ApexOutline.Proofs.FileTree
import ApexOutline.Proofs.Run.Accounts
/-!
# Runs over inputs

Which files a run outlines depends on the files that its inputs stand for, not on how they are listed or
spelled. The collected paths, sorted and each kept once, increase strictly, so they are determined by their
components; and files at paths with the same components have the same outline (`outlineFile_congr`). That
makes two runs over the same files agree (`overInputs_congr`).
-/

namespace ApexOutline

open Text

/-! ## Collecting -/

/-- The files that an input stands for, none when it leads nowhere. -/
def collected (tree : FileTree) (extensions : List Text) (input : Path) : List Path :=
  (collectFiles tree extensions input).toOption.getD []

/-- Some input stands for the file with these components. -/
def Names (tree : FileTree) (extensions : List Text) (inputs : List Path)
    (file : List Path.Component) : Prop :=
  ∃ input ∈ inputs, ∃ p ∈ collected tree extensions input, p.components = file

variable {tree : FileTree} {extensions : List Text} {input : Path} {inputs : List Path}

/-- An input that leads nowhere is reported. Any other stands for paths that lie below it, in path
order. -/
theorem collectFiles_cases (tree : FileTree) (extensions : List Text) (input : Path) :
    (tree.contains input = false ∧
      collectFiles tree extensions input = .error (.missingInput input)) ∨
    (tree.contains input = true ∧ ∃ paths, collectFiles tree extensions input = .ok paths ∧
      FileTree.Below input paths ∧ paths.Pairwise fun p q => p.key ≤ q.key) := by
  unfold collectFiles FileTree.contains FileTree.find?
  cases hlocate : tree.locate input with
  | error cause => exact .inl ⟨rfl, rfl⟩
  | ok here =>
    have hwalk := (tree.below_walk [here] here input).sort_filter (·.hasExtension extensions)
    dsimp only
    rcases hentry : tree.get? here with _ | content | _ | _
    · exact .inl ⟨rfl, rfl⟩
    · refine .inr ⟨rfl, _, rfl, ?_⟩
      split
      · exact ⟨FileTree.below_singleton (FileTree.endsInName_of_file hlocate hentry),
          List.pairwise_singleton _ _⟩
      · exact ⟨FileTree.below_nil input, .nil⟩
    · exact .inr ⟨rfl, _, rfl, hwalk, Path.pairwise_sort _⟩
    · exact .inr ⟨rfl, _, rfl, hwalk, Path.pairwise_sort _⟩

theorem collectFiles_eq (tree : FileTree) (extensions : List Text) (input : Path) :
    collectFiles tree extensions input =
      if tree.contains input then .ok (collected tree extensions input)
      else .error (.missingInput input) := by
  unfold collected
  obtain ⟨hinput, h⟩ | ⟨hinput, paths, h, -⟩ := collectFiles_cases tree extensions input
  all_goals
    rw [h, hinput]
    rfl

theorem below_collected (tree : FileTree) (extensions : List Text) (input : Path) :
    FileTree.Below input (collected tree extensions input) := by
  unfold collected
  obtain ⟨-, h⟩ | ⟨-, paths, h, hbelow, -⟩ := collectFiles_cases tree extensions input
  · rw [h]
    exact FileTree.below_nil input
  · rwa [h]

theorem pairwise_collected (tree : FileTree) (extensions : List Text) (input : Path) :
    (collected tree extensions input).Pairwise fun p q => p.key < q.key := by
  unfold collected
  obtain ⟨-, h⟩ | ⟨-, paths, h, hbelow, hsorted⟩ := collectFiles_cases tree extensions input
  · rw [h]
    exact .nil
  · rw [h]
    exact (hsorted.and (List.pairwise_map.1 hbelow.distinct)).imp fun ⟨hle, hne⟩ =>
      lt_of_le_of_ne hle fun heq => hne (Path.key_eq_iff.1 heq)

/-- The paths that a run over some inputs takes on, before the limit cuts any off. -/
def collectedOnce (tree : FileTree) (extensions : List Text) (inputs : List Path) : List Path :=
  Path.dedup (Path.sort (inputs.flatMap (collected tree extensions)))

theorem mapM_collectFiles (tree : FileTree) (extensions : List Text) (inputs : List Path) :
    inputs.mapM (collectFiles tree extensions) =
      match inputs.find? (!tree.contains ·) with
      | some input => .error (.missingInput input)
      | none => .ok (inputs.map (collected tree extensions)) := by
  induction inputs with
  | nil => rfl
  | cons input inputs ih =>
    rw [List.mapM_cons, ih, collectFiles_eq]
    cases hinput : tree.contains input with
    | false => simp [hinput]; rfl
    | true =>
      rw [List.find?_cons_of_neg (by simp [hinput])]
      cases inputs.find? (!tree.contains ·) <;> rfl

theorem collectAll_eq (tree : FileTree) (extensions : List Text) (inputs : List Path) :
    collectAll tree extensions inputs =
      match inputs.find? (!tree.contains ·) with
      | some input => .error (.missingInput input)
      | none => .ok (collectedOnce tree extensions inputs) := by
  unfold collectAll collectedOnce
  rw [mapM_collectFiles, List.flatMap_def]
  cases inputs.find? (!tree.contains ·) <;> rfl

theorem exists_of_mem_collectedOnce {p : Path} (h : p ∈ collectedOnce tree extensions inputs) :
    ∃ input ∈ inputs, p ∈ collected tree extensions input :=
  List.mem_flatMap.1 (Path.mem_of_mem_dedup_sort h)

theorem names_iff (file : List Path.Component) : Names tree extensions inputs file ↔
    ∃ p ∈ collectedOnce tree extensions inputs, p.components = file := by
  constructor
  · rintro ⟨input, hinput, p, hp, rfl⟩
    exact Path.exists_mem_dedup_sort (List.mem_flatMap.2 ⟨input, hinput, hp⟩)
  · rintro ⟨p, hp, rfl⟩
    obtain ⟨input, hinput, hp⟩ := exists_of_mem_collectedOnce hp
    exact ⟨input, hinput, p, hp, rfl⟩

theorem endsInName_of_mem_collectedOnce {p : Path} (h : p ∈ collectedOnce tree extensions inputs) :
    FileTree.EndsInName p := by
  obtain ⟨input, -, hp⟩ := exists_of_mem_collectedOnce h
  exact (below_collected tree extensions input).endsInName p hp

/-! ## Other spellings -/

/-- Two outlines of one file, whose path may be spelled in two ways. -/
structure FileOutline.Agrees (f g : FileOutline) : Prop where
  components : Path.components f.path = Path.components g.path
  contentHash : f.contentHash = g.contentHash
  declarations : f.declarations = g.declarations
  skippedLines : f.skippedLines = g.skippedLines

/-- Two reports on the same files, whose paths may be spelled in two ways. -/
structure Report.Agrees (r s : Report) : Prop where
  files : List.Forall₂ FileOutline.Agrees r.files s.files
  errorFilePaths : List.Forall₂ (fun p q => Path.components p = Path.components q)
    r.tally.errorFilePaths s.tally.errorFilePaths
  counters : { r.tally with errorFilePaths := [] } = { s.tally with errorFilePaths := [] }

/-- Both fail, or both succeed and their results agree. -/
inductive Alike {α : Type} (agrees : α → α → Prop) : Except Problem α → Except Problem α → Prop
  | error (problem problem' : Problem) : Alike agrees (.error problem) (.error problem')
  | ok {a b : α} : agrees a b → Alike agrees (.ok a) (.ok b)

namespace Run

variable {settings : Settings} {p q : Path}

/-- A file has one outline, however its path is spelled. -/
theorem outlineFile_congr (settings : Settings) (tree : FileTree) (h : p.components = q.components)
    (hp : FileTree.EndsInName p) (hq : FileTree.EndsInName q) :
    Alike FileOutline.Agrees (outlineFile settings tree p) (outlineFile settings tree q) := by
  unfold outlineFile FileTree.readSource
  rw [FileTree.read_congr tree h hp hq]
  cases tree.read q with
  | error cause => exact .error _ _
  | ok content => exact .ok ⟨h, rfl, rfl, rfl⟩

/-- Reports on the same files agree after one more file. -/
theorem agrees_record {r s : Report} {x y : Except Problem FileOutline} (h : r.Agrees s)
    (hpath : p.components = q.components) (houtcome : Alike FileOutline.Agrees x y) :
    (record r (p, x)).Agrees (record s (q, y)) := by
  obtain ⟨hfiles, hpaths, hcounters⟩ := h
  simp only [Tally.mk.injEq, true_and] at hcounters
  obtain ⟨htotal, hempty, hwith, herror, hdeclarations, hskipped⟩ := hcounters
  cases houtcome with
  | error problem problem' =>
    refine ⟨hfiles, ?_, ?_⟩
    · exact List.rel_append hpaths (.cons hpath .nil)
    · simp [record, htotal, hempty, hwith, herror, hdeclarations, hskipped]
  | @ok f g hfile =>
    refine ⟨List.rel_append hfiles (.cons hfile .nil), ?_, ?_⟩
    · simp only [record, hfile.declarations]
      split <;> exact hpaths
    · simp only [record, hfile.declarations, hfile.skippedLines]
      split <;> simp [htotal, hempty, hwith, herror, hdeclarations, hskipped]

theorem agrees_foldl {found found' : List (Path × Except Problem FileOutline)} {r s : Report}
    (h : r.Agrees s)
    (hfound : List.Forall₂ (fun o o' => Path.components o.1 = Path.components o'.1 ∧
      Alike FileOutline.Agrees o.2 o'.2) found found') :
    (found.foldl record r).Agrees (found'.foldl record s) := by
  induction hfound generalizing r s with
  | nil => exact h
  | cons hoc _ ih => exact ih (agrees_record h hoc.1 hoc.2)

/-- Reports on files at the same paths agree, however these are spelled. -/
theorem agrees_report {paths paths' : List Path} (settings : Settings) (tree : FileTree)
    (h : List.Forall₂ (fun p q => p.components = q.components) paths paths')
    (hpaths : ∀ p ∈ paths, FileTree.EndsInName p) (hpaths' : ∀ p ∈ paths', FileTree.EndsInName p)
    (crew crew' : Crew) :
    (report settings tree paths crew).Agrees (report settings tree paths' crew') := by
  have hends : List.Forall₂ (fun p q => FileTree.EndsInName p ∧ FileTree.EndsInName q ∧
      p.components = q.components) paths paths' :=
    (List.forall₂_and_left _ _).2 ⟨hpaths, ((List.forall₂_and_left _ _).2 ⟨hpaths', h.flip⟩).flip⟩
  have htaken := List.forall₂_take (min paths.length (settings.maxFiles.getD paths.length)) hends
  rw [← withinLimit_eq, h.length_eq, ← withinLimit_eq] at htaken
  rw [report_eq, report_eq, htaken.length_eq]
  refine agrees_foldl ⟨.nil, .nil, rfl⟩ ?_
  rw [List.forall₂_map_left_iff, List.forall₂_map_right_iff]
  exact htaken.imp fun p q ⟨hp, hq, hpq⟩ => ⟨hpq, outlineFile_congr settings tree hpq hp hq⟩

/-- A run over inputs fails exactly when one of them leads nowhere. It then has not begun with any file. -/
theorem overInputs_cases (settings : Settings) (tree : FileTree) (inputs : List Path) (crew : Crew) :
    (∃ input ∈ inputs, tree.contains input = false ∧
      overInputs settings tree inputs crew = ([], .error (.missingInput input))) ∨
    ((∀ input ∈ inputs, tree.contains input = true) ∧ (overInputs settings tree inputs crew).2 =
      .ok (report settings tree (collectedOnce tree settings.extensions inputs) crew)) := by
  unfold overInputs
  rw [collectAll_eq]
  cases hmissing : inputs.find? (!tree.contains ·) with
  | some input =>
    exact .inl ⟨input, List.mem_of_find?_eq_some hmissing, by simpa using List.find?_some hmissing, rfl⟩
  | none => exact .inr ⟨by simpa using hmissing, rfl⟩

/-- Runs over inputs that stand for the same files agree. -/
theorem overInputs_congr {inputs' : List Path} (settings : Settings) (tree : FileTree)
    (hmissing : (∃ input ∈ inputs', tree.contains input = false) ↔
      ∃ input ∈ inputs, tree.contains input = false)
    (hnames : ∀ file, Names tree settings.extensions inputs' file ↔
      Names tree settings.extensions inputs file) (crew crew' : Crew) :
    Alike Report.Agrees (overInputs settings tree inputs' crew').2
      (overInputs settings tree inputs crew).2 := by
  obtain ⟨input, hinput, hcontains, h⟩ | ⟨hall, h⟩ := overInputs_cases settings tree inputs crew
  all_goals
    obtain ⟨input', hinput', hcontains', h'⟩ | ⟨hall', h'⟩ := overInputs_cases settings tree inputs' crew'
    all_goals rw [h, h']
  · exact .error _ _
  · obtain ⟨input', hinput', hcontains'⟩ := hmissing.2 ⟨input, hinput, hcontains⟩
    simp [hall' input' hinput'] at hcontains'
  · obtain ⟨input, hinput, hcontains⟩ := hmissing.1 ⟨input', hinput', hcontains'⟩
    simp [hall input hinput] at hcontains
  · refine .ok (agrees_report settings tree ?_ ?_ ?_ crew' crew)
    · exact Path.forall₂_of_pairwise (Path.pairwise_dedup_sort _) (Path.pairwise_dedup_sort _)
        fun file => (names_iff file).symm.trans ((hnames file).trans (names_iff file))
    · exact fun p => endsInName_of_mem_collectedOnce
    · exact fun p => endsInName_of_mem_collectedOnce

theorem collectedOnce_singleton (tree : FileTree) (extensions : List Text) (input : Path) :
    collectedOnce tree extensions [input] = collected tree extensions input := by
  unfold collectedOnce
  rw [List.flatMap_singleton, Path.dedup_sort_eq_self (pairwise_collected tree extensions input)]

/-- A run over one input is a run over the list of it. -/
theorem overInputs_singleton (settings : Settings) (tree : FileTree) (input : Path) (crew crew' : Crew) :
    (overInputs settings tree [input] crew).2 = (overInput settings tree input crew').2 := by
  unfold overInput
  rw [collectFiles_eq]
  obtain ⟨first, hfirst, hmissing, h⟩ | ⟨hall, h⟩ := overInputs_cases settings tree [input] crew
  · rw [List.mem_singleton.1 hfirst] at hmissing h
    rw [h, hmissing]
    rfl
  · rw [h, hall input (List.mem_singleton_self input), collectedOnce_singleton, report_eq,
      ← report_eq settings tree _ crew']
    rfl

/-- A run over inputs depends only on the files they stand for. It fails exactly when some input leads
nowhere, before it has begun with any file. Otherwise it is the run over paths that increase strictly and
are those of the files that the inputs stand for, before the limit cuts any off; the report accounts for each
of those within the limit once, as an outline or as a file that cannot be read. So other inputs that stand for
the same files yield the same report but for the spelling of paths, whoever works on them: the inputs in any
order and any number, or one more input whose files are there already. One input alone is the list of it. -/
theorem overInputs_names (settings : Settings) (tree : FileTree) (inputs : List Path) (crew : Crew) :
    let outcome := overInputs settings tree inputs crew
    let leadsNowhere (input : Path) := tree.contains input = false
    let files (input : Path) := collected tree settings.extensions input
    ((∃ problem, outcome.2 = .error problem) ↔ ∃ input ∈ inputs, leadsNowhere input) ∧
      (∀ problem, outcome.2 = .error problem →
        outcome.1 = [] ∧ ∃ input ∈ inputs, leadsNowhere input ∧ problem = .missingInput input) ∧
      (∀ report, outcome.2 = .ok report → ∃ paths, report = (overFiles settings tree paths crew).2 ∧
        paths.Pairwise (fun p q => p.key < q.key) ∧
        (∀ p ∈ paths, ∃ input ∈ inputs, p ∈ files input) ∧
        (∀ input ∈ inputs, ∀ p ∈ files input, ∃ q ∈ paths, q.components = p.components) ∧
        Accounts settings tree (withinLimit settings paths) report ∧
        (report.files.map (·.path) ++ report.tally.errorFilePaths).Perm (withinLimit settings paths)) ∧
      (∀ inputs' crew', (∀ input, input ∈ inputs' ↔ input ∈ inputs) →
        Alike Report.Agrees (overInputs settings tree inputs' crew').2 outcome.2) ∧
      (∀ extra inputs' crew', inputs'.Perm (extra :: inputs) → ¬ leadsNowhere extra →
        (∀ p ∈ files extra, ∃ input ∈ inputs, ∃ q ∈ files input, q.components = p.components) →
        Alike Report.Agrees (overInputs settings tree inputs' crew').2 outcome.2) ∧
      ∀ input crew', (overInputs settings tree [input] crew).2 = (overInput settings tree input crew').2 := by
  intro outcome leadsNowhere files
  refine ⟨?_, ?_, ?_, ?_, ?_, fun input crew' => overInputs_singleton settings tree input crew crew'⟩
  · obtain ⟨input, hinput, hmissing, h⟩ | ⟨hall, h⟩ := overInputs_cases settings tree inputs crew
    · exact iff_of_true ⟨_, congrArg Prod.snd h⟩ ⟨input, hinput, hmissing⟩
    · refine iff_of_false ?_ ?_
      · rintro ⟨problem, hproblem⟩
        cases h.symm.trans hproblem
      · rintro ⟨input, hinput, hmissing⟩
        cases (hall input hinput).symm.trans hmissing
  · intro problem hproblem
    obtain ⟨input, hinput, hmissing, h⟩ | ⟨-, h⟩ := overInputs_cases settings tree inputs crew
    · refine ⟨congrArg Prod.fst h, input, hinput, hmissing, ?_⟩
      exact Except.error.inj (hproblem.symm.trans (congrArg Prod.snd h))
    · cases h.symm.trans hproblem
  · intro report hreport
    obtain ⟨input, hinput, hmissing, h⟩ | ⟨-, h⟩ := overInputs_cases settings tree inputs crew
    · cases (congrArg Prod.snd h).symm.trans hreport
    · cases hreport.symm.trans h
      have haccounts := accounts_report settings tree (collectedOnce tree settings.extensions inputs) crew
      refine ⟨_, rfl, Path.pairwise_dedup_sort _, fun p => exists_of_mem_collectedOnce,
        fun input hinput p hp => ?_, haccounts, haccounts.perm⟩
      exact (names_iff p.components).1 ⟨input, hinput, p, hp, rfl⟩
  · intro inputs' crew' hmem
    apply overInputs_congr
    · simp only [hmem]
    · intro file
      simp only [Names, hmem]
  · intro extra inputs' crew' hperm hextra hfiles
    apply overInputs_congr
    · simp only [hperm.mem_iff, List.exists_mem_cons_iff]
      exact or_iff_right hextra
    · intro file
      simp only [Names, hperm.mem_iff, List.exists_mem_cons_iff]
      refine or_iff_right_of_imp ?_
      rintro ⟨p, hp, rfl⟩
      exact hfiles p hp

/-- A directory with two files, and before it one of them in another spelling; a limit of one. The directory
is the working directory or the root. -/
theorem overInputs_names_spelled :
    let outcome (inputs : List Path) (crew : Crew) :=
      (overInputs { maxFiles := some 1 } smallTree inputs crew).2
    let adds (file directory : Path) := (¬ ∃ problem, outcome [directory] .single = .error problem) ∧
      Alike Report.Agrees (outcome [file, directory] backwards) (outcome [directory] .single)
    adds ".//A.cls".toList ".".toList ∧ adds "/./A.cls".toList "/".toList := by
  intro outcome adds
  have hadds (file directory first : Path) (hcontains : smallTree.contains directory = true)
      (hfile : smallTree.contains file = true)
      (hone : collected smallTree ({} : Settings).extensions file = [file])
      (hfirst : first ∈ collected smallTree ({} : Settings).extensions directory)
      (hsame : first.components = file.components) : adds file directory := by
    obtain ⟨herror, -, -, -, hextra, -⟩ :=
      overInputs_names { maxFiles := some 1 } smallTree [directory] .single
    refine ⟨?_, hextra file _ backwards (.refl _) ?_ ?_⟩
    · rw [herror]
      simp [hcontains]
    · simp [hfile]
    · intro p hp
      change p ∈ collected smallTree ({} : Settings).extensions file at hp
      rw [hone] at hp
      rw [List.mem_singleton.1 hp]
      exact ⟨directory, List.mem_singleton_self directory, first, hfirst, hsame⟩
  have hhere : collected smallTree ({} : Settings).extensions ".".toList =
      ["./A.cls".toList, "./B.cls".toList] := by cbv
  have htop : collected smallTree ({} : Settings).extensions "/".toList =
      ["/A.cls".toList, "/B.cls".toList] := by cbv
  constructor
  · refine hadds _ _ "./A.cls".toList (by cbv) (by cbv) (by cbv) ?_ (by decide)
    rw [hhere]
    exact List.mem_cons_self
  · refine hadds _ _ "/A.cls".toList (by cbv) (by cbv) (by cbv) ?_ (by decide)
    rw [htop]
    exact List.mem_cons_self

end Run

end ApexOutline
