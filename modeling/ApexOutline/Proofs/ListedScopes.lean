import ApexOutline.Program
import ApexOutline.Proofs.Json.Codec
import ApexOutline.Proofs.ScopePrecedence
import ApexOutline.Proofs.Text.Marks
import Mathlib
/-!
# Scopes as they are listed

Scopes are listed in a configuration file (`Lists`) or on the command line. Only the command line drops the
blanks around an entry and the entries that are blank (`ScopeList.Tidy`); a file has its entries taken as they
are. So a list can mean less in a file than on the command line, but never more: an entry with blanks around it
finds a line only where it would without them (`isSome_ofLine?_ofKeywords`). Where the entries are words, the
two lists find the same lines exactly when each entry also stands in the list without blanks
(`sameLines_ofKeywords_iff`).
-/

namespace ApexOutline

open Text

namespace ScopeList

/-- The keywords have no outer blanks, and none is blank. -/
def Tidy (scopes : ScopeList) : Prop :=
  ∀ keyword ∈ scopes.keywords, trim keyword = keyword ∧ keyword ≠ []

instance (scopes : ScopeList) : Decidable scopes.Tidy :=
  inferInstanceAs (Decidable (∀ keyword ∈ scopes.keywords, _ ∧ _))

/-- The same lines have a scope. -/
def SameLines (scopes scopes' : ScopeList) : Prop :=
  ∀ line, (Scope.ofLine? line scopes).isSome = (Scope.ofLine? line scopes').isSome

variable {entries : List Text} {keyword : Text}

theorem mem_ofKeywords :
    keyword ∈ (ofKeywords entries).keywords ↔ ∃ entry ∈ entries, trim entry = keyword ∧ keyword ≠ [] := by
  simp only [ofKeywords, List.mem_filter, List.mem_map, Bool.not_eq_true', List.isEmpty_eq_false_iff]
  constructor
  · rintro ⟨⟨entry, hentry, rfl⟩, hne⟩
    exact ⟨entry, hentry, rfl, hne⟩
  · rintro ⟨entry, hentry, rfl, hne⟩
    exact ⟨⟨entry, hentry, rfl⟩, hne⟩

theorem tidy_ofKeywords (entries : List Text) : (ofKeywords entries).Tidy := by
  intro keyword hkeyword
  obtain ⟨entry, -, rfl, hne⟩ := mem_ofKeywords.1 hkeyword
  exact ⟨trim_trim entry, hne⟩

/-- Tidying leaves a list alone exactly when it is tidy. -/
theorem tidy_iff : (⟨entries⟩ : ScopeList).Tidy ↔ ofKeywords entries = ⟨entries⟩ := by
  constructor
  · intro h
    have hmap : entries.map trim = entries :=
      (List.map_congr_left fun entry hentry => (h entry hentry).1).trans (List.map_id entries)
    have hfilter : entries.filter (!·.isEmpty) = entries :=
      List.filter_eq_self.2 fun entry hentry => by simpa using (h entry hentry).2
    simp only [ofKeywords, hmap, hfilter]
  · intro h
    rw [← h]
    exact tidy_ofKeywords entries

/-- Tidying empties a list when all its entries are blank. -/
theorem isEmpty_ofKeywords : (ofKeywords entries).isEmpty = true ↔ ∀ entry ∈ entries, trim entry = [] := by
  simp [isEmpty, ofKeywords]

end ScopeList

/-! ## Where scopes come from -/

namespace Settings

/-- The document gives the texts as its scopes. -/
inductive Lists : Format → Text → List Text → Prop
  | toml {source : Text} {members : Toml.Members} {node : Toml.Node} {entries : List Text} :
      Toml.parse? source = some members → members.lookup "scopes".toList = some node →
      node.toTexts? = some entries → Lists .toml source entries
  | yaml {source key : Text} {root node target : Yaml.Node} {members : Yaml.Members} {entries : List Text} :
      Yaml.Node.parse? source = some (some root) → root.toMembers? root.anchors = some members →
      members.filter (·.1 == "scopes".toList) = [(key, node)] → node.target? root.anchors = some target →
      target.toTexts? root.anchors = some entries → Lists .yaml source entries

/-- A file has its scopes taken as they are. -/
theorem scopes_of_lists {format : Format} {source : Text} {entries : List Text} {settings : Settings}
    (h : Lists format source entries) (hsettings : ofText? format source = some settings) :
    settings.scopes = ⟨entries⟩ := by
  cases h with
  | toml hparse hlookup htexts =>
    simp only [ofText?, ofToml?, hparse, Toml.Members.get?, hlookup, htexts, Option.bind_eq_bind, Option.bind_some,
      Option.map_some, Option.bind_eq_some_iff, Option.pure_def, Option.some.injEq] at hsettings
    obtain ⟨extensions, -, maxFiles, -, threads, -, verbose, -, rfl⟩ := hsettings
    rfl
  | yaml hparse hmembers hfilter htarget htexts =>
    simp only [ofText?, ofYaml?, hparse, ofYamlNode?, hmembers, Yaml.Members.get?, hfilter, htarget, htexts,
      Option.bind_eq_bind, Option.bind_some, Option.map_some, Option.bind_eq_some_iff, Option.pure_def,
      Option.some.injEq] at hsettings
    obtain ⟨extensions, -, maxFiles, -, threads, -, verbose, -, rfl⟩ := hsettings
    rfl

end Settings

/-- The scopes of a command line are tidied, whatever a file says. -/
theorem Program.scopes_of_options {options : Options} {tree : FileTree} {settings : Settings}
    (hne : options.scopes ≠ []) (h : Program.settings options tree = .ok settings) :
    settings.scopes = .ofKeywords options.scopes := by
  have hoverride (configured : Settings) : (override options configured).scopes = .ofKeywords options.scopes := by
    simp [override, hne]
  unfold Program.settings at h
  split at h
  · cases h
    exact hoverride _
  · rename_i path hpath
    cases hload : Settings.load tree path with
    | error problem =>
      rw [hload] at h
      cases h
    | ok configured =>
      rw [hload] at h
      cases h
      exact hoverride configured

/-! ## Entries with blanks around them -/

namespace Scope

variable {line word keyword keyword' : Text} {entries : List Text}

/-- A keyword names scopes by its lowercase. -/
theorem Names.of_lower_eq (hlower : lower keyword' = lower keyword) (h : Names line keyword) :
    Names line keyword' := by
  rw [← isExplicit_iff] at h ⊢
  simpa only [isExplicit, hlower] using h

/-- A keyword that opens a normalized line has no blanks before it. -/
theorem lower_of_prefix {rest : Text} (h : normalize line = lower keyword ++ rest) :
    ∃ after, lower keyword = lower (trim keyword) ++ after ∧ ∀ c ∈ after, isBlank c := by
  obtain ⟨before, after, hlower, hbefore, hafter⟩ := lower_trim keyword
  cases before with
  | nil => exact ⟨after, hlower, hafter⟩
  | cons b before =>
    have hhead := head_normalize line b (by rw [h, hlower]; rfl)
    rw [hbefore b List.mem_cons_self] at hhead
    cases hhead

/-- Without the blanks around it, an entry names every scope that it names with them. -/
theorem names_trim (h : Names line keyword) : Names line (trim keyword) := by
  have hne : lower (trim keyword) ≠ [] := fun hnil => trim_ne_nil_of_names h (lower_eq_nil_iff.1 hnil)
  cases h with
  | @opens b rest _ hb hrest hline =>
    obtain ⟨after, hlower, hafter⟩ := lower_of_prefix hline
    rw [hlower, List.append_assoc] at hline
    cases after with
    | nil => exact .opens hne hb hrest hline
    | cons b' after => exact .opens hne (hafter b' List.mem_cons_self) (by simp) hline
  | staticTest htest hgap hb hline =>
    have hblank : ∀ c ∈ lower keyword, isBlank c = false := by
      rw [htest]
      exact fun c hc => isBlank_of_isWord (isWord_testWord c hc)
    exact .staticTest ((lower_trim_of_not_blank hblank).trans htest) hgap hb hline

theorem isWord_privateWord : ∀ c ∈ privateWord, isWord c = true :=
  List.all_eq_true.1 (by decide)

theorem isPrivate_iff : IsPrivate keyword ↔ lower keyword = privateWord := by
  rw [lower_eq_iff_lowerAscii_eq (List.all_eq_true.1 (by decide)) (by decide) (by decide)]
  exact beq_iff_eq

theorem isPrivate_trim (h : IsPrivate keyword) : IsPrivate (trim keyword) := by
  rw [isPrivate_iff] at h ⊢
  have hblank : ∀ c ∈ lower keyword, isBlank c = false := by
    rw [h]
    exact fun c hc => isBlank_of_isWord (isWord_privateWord c hc)
  exact (lower_trim_of_not_blank hblank).trans h

/-- Whether a line has a scope, told from the entries. -/
theorem isSome_ofLine?_iff_names {scopes : ScopeList} :
    (ofLine? line scopes).isSome ↔
      (∃ keyword ∈ scopes.keywords, Names line keyword) ∨
        PrivateShape (normalize line) ∧ ∃ keyword ∈ scopes.keywords, IsPrivate keyword := by
  simp only [isSome_ofLine?_iff, isExplicit_iff, isImplicitlyPrivate_iff]
  rfl

/-- A list finds no line in a file that it does not find on the command line. -/
theorem isSome_ofLine?_ofKeywords (h : (ofLine? line ⟨entries⟩).isSome) :
    (ofLine? line (.ofKeywords entries)).isSome := by
  rw [isSome_ofLine?_iff_names] at h ⊢
  rcases h with ⟨entry, hentry, hnames⟩ | ⟨hshape, entry, hentry, hprivate⟩
  · have hmem := ScopeList.mem_ofKeywords.2 ⟨entry, hentry, rfl, trim_ne_nil_of_names hnames⟩
    exact .inl ⟨trim entry, hmem, names_trim hnames⟩
  · have hmem := ScopeList.mem_ofKeywords.2 ⟨entry, hentry, rfl, trim_ne_nil_of_isPrivate hprivate⟩
    exact .inr ⟨hshape, trim entry, hmem, isPrivate_trim hprivate⟩

/-! ## Entries that are words -/

/-- A line that opens with a word and is of no other scope: the last word keeps it from being private by its
shape, and the one before keeps it from being a test. -/
def probe (word : Text) : Text :=
  word ++ ' ' :: 'x' :: " testmethod".toList

variable (hne : word ≠ []) (hword : ∀ c ∈ word, isWord c = true)

include hne hword in
theorem normalize_probe : normalize (probe word) = lower word ++ ' ' :: 'x' :: " testmethod".toList := by
  obtain ⟨c, w, rfl⟩ := List.exists_cons_of_ne_nil hne
  have hc : isBlank c = false := isBlank_of_isWord (hword c List.mem_cons_self)
  have hstart : trimStart (probe (c :: w)) = probe (c :: w) := List.dropWhile_cons_of_neg (by simp [hc])
  have hstrip : Annotations.strip (probe (c :: w)) = probe (c :: w) := by
    refine Annotations.stripUpTo_of_after?_eq_none ?_ _
    unfold Annotations.after?
    rw [hstart]
    split
    · rename_i hat
      obtain ⟨rfl, -⟩ := List.cons.inj hat
      exact absurd (hword '@' List.mem_cons_self) (by decide)
    · rfl
  have htrim : trim (probe (c :: w)) = probe (c :: w) := by
    rw [trim_eq, hstart]
    have hend := trimEnd_append_cons (c := 'd') (by decide) (c :: w ++ " x testmetho".toList) []
    simpa [probe, trimEnd, dropWhileEnd] using hend
  rw [normalize, hstrip, htrim, probe, lower_append_barrier (isBarrier_of_isBlank (by decide))]
  rfl

include hne hword in
theorem isImplicitlyPrivate_probe : isImplicitlyPrivate (normalize (probe word)) = false := by
  have htest : hasWord testWord (normalize (probe word)) = true := by
    rw [normalize_probe hne hword, hasWord_append (by decide), Bool.or_eq_true]
    exact .inr (by decide)
  have hparen : (normalize (probe word)).contains '(' = false := by
    rw [normalize_probe hne hword, ← Bool.not_eq_true, List.contains_iff_mem, List.mem_append,
      mem_lower_iff (b := '(') (by decide +kernel)]
    rintro (hmem | hmem)
    · exact absurd (hword _ hmem) (by decide)
    · exact absurd hmem (by decide)
  rw [isImplicitlyPrivate, htest, hparen, Bool.not_true, Bool.and_false, Bool.and_false, Bool.or_false]

include hne hword in
/-- Where the entries are words, one names the scope of the line exactly when it spells the word. -/
theorem names_probe_iff (hkeyword : ∀ c ∈ trim keyword, isWord c = true) :
    Names (probe word) keyword ↔ lower keyword = lower word := by
  have hprobe := normalize_probe hne hword
  constructor
  · intro h
    cases h with
    | @opens b rest _ hb _ hline =>
      obtain ⟨after, hlower, hafter⟩ := lower_of_prefix hline
      rw [hprobe, hlower, List.append_assoc] at hline
      have hgap : IsGap (after ++ [b]) := ⟨by simp, by simpa [or_imp, forall_and] using ⟨hafter, hb⟩⟩
      have hhead := hgap.head rest
      rw [List.append_assoc] at hhead
      obtain ⟨hsame, hrest⟩ := append_inj_of_stop (p := (!isBlank ·)) (by simpa using isBlank_lower hword)
        (by simpa using isBlank_lower hkeyword) (by rintro c ⟨⟩; rfl) (by simpa using hhead) hline
      cases after with
      | nil => rw [hlower, hsame, List.append_nil]
      | cons c after =>
        obtain ⟨-, hx⟩ := List.cons.inj hrest
        have hblank : isBlank 'x' = true := by
          cases after with
          | nil => exact (List.cons.inj hx).1 ▸ hb
          | cons d after => exact (List.cons.inj hx).1 ▸ hafter d (by simp)
        cases hblank
    | @staticTest gap rest b htest hgap hb hline =>
      rw [hprobe, List.append_assoc, List.append_assoc] at hline
      obtain ⟨-, -, htail⟩ := append_gap_inj (g := [' ']) (isBlank_lower hword)
        (fun c hc => isBlank_of_isWord (isWord_static c hc)) (by decide) hgap (by rintro c ⟨⟩; rfl)
        (by rintro c ⟨⟩; rfl) hline
      cases htail
  · intro h
    refine .opens ?_ (b := ' ') (by decide) (List.cons_ne_nil _ _) (h ▸ hprobe)
    rw [h]
    exact fun hnil => hne (lower_eq_nil_iff.1 hnil)

include hne hword in
/-- So the line has a scope exactly when an entry spells its first word. -/
theorem isSome_ofLine?_probe {scopes : ScopeList}
    (hscopes : ∀ keyword ∈ scopes.keywords, ∀ c ∈ trim keyword, isWord c = true) :
    (ofLine? (probe word) scopes).isSome ↔ ∃ keyword ∈ scopes.keywords, lower keyword = lower word := by
  rw [isSome_ofLine?_iff_names, ← isImplicitlyPrivate_iff, isImplicitlyPrivate_probe hne hword]
  simp only [Bool.false_eq_true, false_and, or_false]
  exact exists_congr fun keyword => and_congr_right fun hmem => names_probe_iff hne hword (hscopes keyword hmem)

/-- Where the entries are words, the two lists find the same lines exactly when each entry stands in the list
without blanks as well. -/
theorem sameLines_ofKeywords_iff (hentries : ∀ entry ∈ entries, ∀ c ∈ trim entry, isWord c = true) :
    ScopeList.SameLines ⟨entries⟩ (.ofKeywords entries) ↔
      ∀ entry ∈ entries, trim entry ≠ [] → ∃ twin ∈ entries, lower twin = lower (trim entry) := by
  constructor
  · intro hsame entry hentry hne
    have htyped : ∀ keyword ∈ (ScopeList.ofKeywords entries).keywords, ∀ c ∈ trim keyword, isWord c = true := by
      intro keyword hkeyword
      obtain ⟨entry', hentry', rfl, -⟩ := ScopeList.mem_ofKeywords.1 hkeyword
      rw [trim_trim]
      exact hentries entry' hentry'
    have hmem := ScopeList.mem_ofKeywords.2 ⟨entry, hentry, rfl, hne⟩
    have hfound := (isSome_ofLine?_probe hne (hentries entry hentry) htyped).2 ⟨_, hmem, rfl⟩
    rw [← hsame] at hfound
    exact (isSome_ofLine?_probe hne (hentries entry hentry) hentries).1 hfound
  · intro htwins line
    rw [Bool.eq_iff_iff]
    refine ⟨isSome_ofLine?_ofKeywords, fun h => ?_⟩
    have htwin {keyword : Text} (hkeyword : keyword ∈ (ScopeList.ofKeywords entries).keywords) :
        ∃ twin ∈ entries, lower twin = lower keyword := by
      obtain ⟨entry, hentry, rfl, hne⟩ := ScopeList.mem_ofKeywords.1 hkeyword
      exact htwins entry hentry hne
    rw [isSome_ofLine?_iff_names] at h ⊢
    rcases h with ⟨keyword, hkeyword, hnames⟩ | ⟨hshape, keyword, hkeyword, hprivate⟩
    · obtain ⟨twin, hmem, hlower⟩ := htwin hkeyword
      exact .inl ⟨twin, hmem, hnames.of_lower_eq hlower⟩
    · obtain ⟨twin, hmem, hlower⟩ := htwin hkeyword
      exact .inr ⟨hshape, twin, hmem, isPrivate_iff.2 (hlower.trans (isPrivate_iff.1 hprivate))⟩

end Scope

namespace ScopeList

/-- What a list of entries means depends on where it stands. A configuration file and JSON have the entries
taken as they are, the command line drops the blanks around them and the blank ones. Tidied lists are tidy, and
the two lists are one exactly when the entries are tidy as they stand. An entry with blanks around it finds no
line that it would not find without them; where the entries are words, the lists find the same lines exactly
when each entry stands among them without blanks as well. And only a list of nothing but blank entries is empty
on the command line and not in a file. -/
theorem scopes_as_listed (entries : List Text) :
    (∀ format source settings, Settings.Lists format source entries →
      Settings.ofText? format source = some settings → settings.scopes = ⟨entries⟩) ∧
    ofJson? (.ofTexts entries) = some ⟨entries⟩ ∧
    (∀ options tree settings, options.scopes = entries → entries ≠ [] →
      Program.settings options tree = .ok settings → settings.scopes = .ofKeywords entries) ∧
    (ofKeywords entries).Tidy ∧
    ((⟨entries⟩ : ScopeList).Tidy ↔ ofKeywords entries = ⟨entries⟩) ∧
    (∀ line, (Scope.ofLine? line ⟨entries⟩).isSome → (Scope.ofLine? line (.ofKeywords entries)).isSome) ∧
    ((∀ entry ∈ entries, ∀ c ∈ trim entry, isWord c = true) →
      (SameLines ⟨entries⟩ (.ofKeywords entries) ↔
        ∀ entry ∈ entries, trim entry ≠ [] → ∃ twin ∈ entries, lower twin = lower (trim entry))) ∧
    ((⟨entries⟩ : ScopeList).isEmpty = (ofKeywords entries).isEmpty ↔
      entries = [] ∨ ∃ entry ∈ entries, trim entry ≠ []) := by
  refine ⟨?_, ?_, ?_, ?_, ?_, ?_, ?_, ?_⟩
  · intro format source settings hlists hsettings
    exact Settings.scopes_of_lists hlists hsettings
  · exact ofJson?_toJson ⟨entries⟩
  · rintro options tree settings rfl hne hsettings
    exact Program.scopes_of_options hne hsettings
  · exact tidy_ofKeywords entries
  · exact tidy_iff
  · intro line h
    exact Scope.isSome_ofLine?_ofKeywords h
  · exact Scope.sameLines_ofKeywords_iff
  · have hlisted : (⟨entries⟩ : ScopeList).isEmpty = true ↔ entries = [] := List.isEmpty_iff
    rw [Bool.eq_iff_iff, hlisted, isEmpty_ofKeywords]
    constructor
    · intro h
      by_cases hblank : ∀ entry ∈ entries, trim entry = []
      · exact .inl (h.2 hblank)
      · exact .inr (by simpa using hblank)
    · rintro (rfl | ⟨entry, hentry, hne⟩)
      · simp
      · refine ⟨?_, fun hblank => absurd (hblank entry hentry) hne⟩
        rintro rfl
        cases hentry

/-- A file of either format that lists one keyword with blanks around it finds fewer lines than the same list
on the command line, and one that lists a blank is not empty. -/
theorem scopes_as_listed_padded :
    (∃ settings, Settings.ofText? .toml "scopes = [\" public \"]".toList = some settings ∧
      settings.scopes = ⟨[" public ".toList]⟩) ∧
    (∃ settings, Settings.ofText? .yaml "scopes: [\" public \"]".toList = some settings ∧
      settings.scopes = ⟨[" public ".toList]⟩) ∧
    (∃ settings, Program.settings { scopes := [" public ".toList] } .empty = .ok settings ∧
      settings.scopes = .ofKeywords [" public ".toList]) ∧
    ¬ SameLines ⟨[" public ".toList]⟩ (.ofKeywords [" public ".toList]) ∧
    (⟨[" ".toList]⟩ : ScopeList).isEmpty ≠ (ofKeywords [" ".toList]).isEmpty := by
  refine ⟨?_, ?_, ?_, ?_, ?_⟩
  · have hparse : Toml.parse? "scopes = [\" public \"]".toList =
        some [("scopes".toList, .array [.text " public ".toList])] := by cbv
    have hsettings : Settings.ofText? .toml "scopes = [\" public \"]".toList =
        some { scopes := ⟨[" public ".toList]⟩ } := by cbv
    exact ⟨_, hsettings, (scopes_as_listed _).1 _ _ _ (.toml hparse rfl rfl) hsettings⟩
  · let root : Yaml.Node := .mapping none [(.scalar none none .plain "scopes".toList,
      .sequence none [.scalar none none .double " public ".toList])]
    have hparse : Yaml.Node.parse? "scopes: [\" public \"]".toList = some (some root) := by cbv
    have hsettings : Settings.ofText? .yaml "scopes: [\" public \"]".toList =
        some { scopes := ⟨[" public ".toList]⟩ } := by cbv
    exact ⟨_, hsettings, (scopes_as_listed _).1 _ _ _ (.yaml hparse rfl rfl rfl rfl) hsettings⟩
  · have hrun : Program.settings { scopes := [" public ".toList] } .empty =
        .ok (Program.override { scopes := [" public ".toList] } {}) := rfl
    exact ⟨_, hrun, (scopes_as_listed _).2.2.1 _ _ _ rfl (by decide) hrun⟩
  · have hword : ∀ entry ∈ [" public ".toList], ∀ c ∈ trim entry, isWord c = true :=
      List.forall_mem_singleton.2 (List.all_eq_true.1 (by decide))
    rw [(scopes_as_listed _).2.2.2.2.2.2.1 hword]
    decide
  · rw [ne_eq, (scopes_as_listed _).2.2.2.2.2.2.2]
    decide

end ScopeList

end ApexOutline
