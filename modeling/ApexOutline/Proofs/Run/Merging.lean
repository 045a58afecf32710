import ApexOutline.Proofs.Run.Accounts
/-!
# Reports on parts of a run

Recording a file and merging tallies are two ways to count, and they agree: a file can be recorded before
or after a report is put behind another one (`record_append`). So the report on two lists of files, one
behind the other, is made of the reports on both (`report_append`), and a run may be cut into any parts
(`tallies_compose`).
-/

namespace ApexOutline

/-! ## Tallies -/

namespace Tally

theorem merge_assoc (s t u : Tally) : (s.merge t).merge u = s.merge (t.merge u) := by
  simp [merge, Nat.add_assoc]

theorem empty_merge (t : Tally) : ({} : Tally).merge t = t := by
  simp [merge]

theorem merge_empty (t : Tally) : t.merge {} = t := by
  simp [merge]

theorem Balanced.merge {s t : Tally} (hs : s.Balanced) (ht : t.Balanced) : (s.merge t).Balanced where
  totalFiles := by
    simp only [Tally.merge, hs.totalFiles, ht.totalFiles]
    omega
  errorFiles := by simp [Tally.merge, hs.errorFiles, ht.errorFiles]

end Tally

/-! ## Reports -/

/-- The report on two parts of a run together. -/
def Report.append (r s : Report) : Report :=
  ⟨r.files ++ s.files, r.tally.merge s.tally⟩

/-- A report on no file that has been told how many files there will be. -/
def Report.announce (total : Nat) : Report :=
  ⟨[], { totalFiles := total }⟩

namespace Report

theorem append_assoc (r s t : Report) : (r.append s).append t = r.append (s.append t) := by
  simp [append, Tally.merge_assoc]

theorem append_announce (r : Report) (total : Nat) :
    r.append (announce total) = (announce total).append r := by
  simp [append, announce, Tally.merge, Nat.add_comm]

theorem announce_append_announce (m n : Nat) :
    (announce m).append (announce n) = announce (m + n) := by
  simp [append, announce, Tally.merge]

theorem append_empty (r : Report) : r.append ⟨[], {}⟩ = r := by
  simp [append, Tally.merge_empty]

theorem empty_append (r : Report) : append ⟨[], {}⟩ r = r := by
  simp [append, Tally.empty_merge]

theorem files_foldl_append (r : Report) (rs : List Report) :
    (rs.foldl append r).files = r.files ++ rs.flatMap (·.files) := by
  induction rs generalizing r with
  | nil => simp
  | cons s rs ih => simp [ih, append]

theorem tally_foldl_append (r : Report) (rs : List Report) :
    (rs.foldl append r).tally = (rs.map (·.tally)).foldl Tally.merge r.tally := by
  induction rs generalizing r with
  | nil => rfl
  | cons s rs ih => exact ih (r.append s)

end Report

namespace Run

/-- A file is recorded in the second of two parts as it is in both together. -/
theorem record_append (r s : Report) (outcome : Path × Except Problem FileOutline) :
    record (r.append s) outcome = r.append (record s outcome) := by
  obtain ⟨path, problem | file⟩ := outcome
  · simp [record, Report.append, Tally.merge, Nat.add_assoc]
  · simp only [record, Report.append]
    split <;> simp [Tally.merge, Nat.add_assoc]

theorem foldl_record_append (r s : Report) (found : List (Path × Except Problem FileOutline)) :
    found.foldl record (r.append s) = r.append (found.foldl record s) := by
  induction found generalizing s with
  | nil => rfl
  | cons outcome found ih => rw [List.foldl_cons, record_append, ih, List.foldl_cons]

variable {settings : Settings}

/-- The report on some files after others, when no limit cuts any off. -/
theorem report_append (hlimit : settings.maxFiles = none) (tree : FileTree) (a b : List Path)
    (crew crewA crewB : Crew) :
    report settings tree (a ++ b) crew =
      (report settings tree a crewA).append (report settings tree b crewB) := by
  have hwithin (paths : List Path) : withinLimit settings paths = paths := by
    rw [withinLimit, hlimit]
  have hreport (paths : List Path) (crew : Crew) : report settings tree paths crew =
      (paths.map fun path => (path, outlineFile settings tree path)).foldl record
        (.announce paths.length) := by
    rw [report_eq, hwithin]
    rfl
  -- The files of `a` are recorded with the total of `b` in front, which then moves behind them.
  rw [hreport, hreport a, hreport b, List.map_append, List.foldl_append, List.length_append,
    Nat.add_comm, ← Report.announce_append_announce, foldl_record_append, ← Report.append_announce,
    foldl_record_append]

theorem report_nil (settings : Settings) (tree : FileTree) (crew : Crew) :
    report settings tree [] crew = ⟨[], {}⟩ := by
  rw [report_eq, withinLimit_eq]
  rfl

theorem append_report_flatten (hlimit : settings.maxFiles = none) (tree : FileTree) (r : Report)
    (chunks : List (List Path)) (crew : Crew) (crews : List Path → Crew) :
    r.append (report settings tree chunks.flatten crew) =
      (chunks.map fun chunk => report settings tree chunk (crews chunk)).foldl Report.append r := by
  induction chunks generalizing r with
  | nil => rw [List.flatten_nil, report_nil, Report.append_empty, List.map_nil, List.foldl_nil]
  | cons chunk chunks ih =>
    rw [List.flatten_cons, report_append hlimit tree chunk chunks.flatten crew (crews chunk) crew,
      ← Report.append_assoc, ih, List.map_cons, List.foldl_cons]

/-- The report on a list of files that is cut into parts is that on all parts. -/
theorem report_flatten (hlimit : settings.maxFiles = none) (tree : FileTree) (chunks : List (List Path))
    (crew : Crew) (crews : List Path → Crew) :
    report settings tree chunks.flatten crew =
      (chunks.map fun chunk => report settings tree chunk (crews chunk)).foldl Report.append ⟨[], {}⟩ := by
  rw [← append_report_flatten hlimit tree _ chunks crew crews, Report.empty_append]

/-- Tallies compose. Without a limit, the report on two lists of files, one behind the other, has the files
of both and the merge of their tallies; merging is associative, the empty tally changes nothing, and
balanced tallies merge into a balanced one. So a list of files may be cut into any parts and worked on by
any crews: the tallies of the parts, merged in order, are the tally of the whole. -/
theorem tallies_compose (settings : Settings) (hlimit : settings.maxFiles = none) (tree : FileTree)
    (crew : Crew) (crews : List Path → Crew) :
    let whole (paths : List Path) := (overFiles settings tree paths crew).2
    let part (paths : List Path) := (overFiles settings tree paths (crews paths)).2
    (∀ a b, (whole (a ++ b)).files = (part a).files ++ (part b).files ∧
        (whole (a ++ b)).tally = (part a).tally.merge (part b).tally) ∧
      (∀ s t u : Tally, (s.merge t).merge u = s.merge (t.merge u)) ∧
      (∀ t : Tally, ({} : Tally).merge t = t ∧ t.merge {} = t) ∧
      (∀ s t : Tally, s.Balanced → t.Balanced → (s.merge t).Balanced) ∧
      ∀ chunks : List (List Path),
        (whole chunks.flatten).files = chunks.flatMap (fun chunk => (part chunk).files) ∧
          (whole chunks.flatten).tally =
            (chunks.map fun chunk => (part chunk).tally).foldl Tally.merge {} := by
  intro whole part
  have happend (a b : List Path) : whole (a ++ b) = (part a).append (part b) :=
    report_append hlimit tree a b crew (crews a) (crews b)
  have hflatten (chunks : List (List Path)) :
      whole chunks.flatten = (chunks.map part).foldl Report.append ⟨[], {}⟩ :=
    report_flatten hlimit tree chunks crew crews
  refine ⟨fun a b => ?_, Tally.merge_assoc, fun t => ⟨t.empty_merge, t.merge_empty⟩,
    fun s t hs ht => hs.merge ht, fun chunks => ⟨?_, ?_⟩⟩
  · rw [happend]
    exact ⟨rfl, rfl⟩
  · rw [hflatten, Report.files_foldl_append, List.nil_append, List.flatMap_map]
  · rw [hflatten, Report.tally_foldl_append, List.map_map]
    rfl

/-- One file with a declaration and one that cannot be read, then one with nothing in it: the counters and
paths of both parts and of the whole. -/
theorem tallies_compose_small :
    let report (paths : List Path) := (overFiles {} smallTree paths backwards).2
    let front := ["A.cls".toList, "gone.cls".toList]
    let back := ["B.cls".toList]
    let found : Tally :=
      { totalFiles := 2, filesWithDeclarations := 1, errorFiles := 1, errorFilePaths := ["gone.cls".toList],
        totalDeclarations := 1 }
    (report (front ++ back)).tally = (report front).tally.merge (report back).tally ∧
      (report front).tally = found ∧ (report back).tally = { totalFiles := 1, emptyFiles := 1 } ∧
      (report (front ++ back)).tally = { found with totalFiles := 3, emptyFiles := 1 } ∧
      (report (front ++ back)).files.map (·.path) = ["A.cls".toList, "B.cls".toList] := by
  intro report front back found
  have hfirst : ∃ file, outlineFile {} smallTree "A.cls".toList = .ok file ∧ file.declarations.length = 1 ∧
      file.skippedLines = 0 := by
    have hread : smallTree.readSource "A.cls".toList = .ok "class A \x7b\x7d".toList := by cbv
    exact ⟨_, outlineFile_of_readSource hread, by decide +kernel, by decide +kernel⟩
  have hlast : ∃ file, outlineFile {} smallTree "B.cls".toList = .ok file ∧ file.declarations = [] ∧
      file.skippedLines = 0 := by
    have hread : smallTree.readSource "B.cls".toList = .ok [] := by cbv
    exact ⟨_, outlineFile_of_readSource hread, by decide +kernel, by decide +kernel⟩
  have hmissing : ∃ problem, outlineFile {} smallTree "gone.cls".toList = .error problem := ⟨_, by cbv⟩
  obtain ⟨first, hfirst, hone, hfirstLines⟩ := hfirst
  obtain ⟨last, hlast, hnone, hlastLines⟩ := hlast
  obtain ⟨problem, hmissing⟩ := hmissing
  have hfront : (report front).tally = found := by
    change (Run.report _ _ _ _).tally = _
    have hne : first.declarations.isEmpty = false := by
      rw [List.isEmpty_eq_false_iff]
      exact List.ne_nil_of_length_eq_add_one hone
    simp only [report_eq, withinLimit, front, List.map_cons, List.map_nil, List.foldl_cons, List.foldl_nil, hfirst,
      hmissing, record, hne, hone, hfirstLines]
    rfl
  have hback : (report back).tally = { totalFiles := 1, emptyFiles := 1 } := by
    change (Run.report _ _ _ _).tally = _
    simp only [report_eq, withinLimit, back, List.map_cons, List.map_nil, List.foldl_cons, List.foldl_nil, hlast,
      record, hnone, hlastLines]
    rfl
  obtain ⟨hcompose, -⟩ := tallies_compose {} rfl smallTree backwards fun _ => backwards
  obtain ⟨-, hmerge⟩ := hcompose front back
  refine ⟨hmerge, hfront, hback, ?_, ?_⟩
  · refine hmerge.trans ?_
    rw [hfront, hback]
    rfl
  · refine (accounts_report {} smallTree (front ++ back) backwards).files_paths.trans ?_
    cbv

end Run

end ApexOutline
