import ApexOutline.Json.Codec
import ApexOutline.Proofs.Json.Spelling
/-!
# Data decodes to itself

For each type of a report there is a form (`Form`): the schema of its encoding, the encoding and the
decoder. A form is faithful when every value whose counts are below the bound decodes to itself, and all
spellings of the same data decode alike. `forms_faithful` says so of all eight types; records are
faithful because their fields are.
-/

namespace ApexOutline

open Text

namespace Json

/-- A type with its JSON form. -/
structure Form (α : Type) where
  schema : Schema
  encode : α → Json
  decode : Json → Option α
  /-- The counts of a value are below the bound. -/
  Fits : α → Prop

/-- Data decodes to itself, however it is spelled. -/
structure Form.Faithful {α : Type} (form : Form α) : Prop where
  /-- An encoding is written in the plain way that the schema describes. -/
  describes : ∀ x, Describes form.schema (form.encode x)
  decode_encode : ∀ x, form.Fits x → form.decode (form.encode x) = some x
  decode_eq : ∀ v v', SameData form.schema v v' → form.decode v = form.decode v'

/-! ## Values of fields -/

theorem toCount?_ofNat {n : Nat} (h : n < countBound) : toCount? (.ofNat n) = some n := by
  change (if n < countBound then some n else none) = some n
  rw [if_pos h]

@[simp]
theorem toText?_text (t : Text) : toText? (.text t) = some t :=
  rfl

@[simp]
theorem toBool?_bool (b : Bool) : toBool? (.bool b) = some b :=
  rfl

theorem toList?_array {α : Type} {encode : α → Json} {decode : Json → Option α} {xs : List α}
    (h : ∀ x ∈ xs, decode (encode x) = some x) : toList? decode (.array (xs.map encode)) = some xs := by
  change (xs.map encode).mapM decode = some xs
  induction xs with
  | nil => rfl
  | cons x xs ih =>
    obtain ⟨hx, hxs⟩ := List.forall_mem_cons.1 h
    rw [List.map_cons, List.mapM_cons, hx, ih hxs]
    rfl

@[simp]
theorem toList?_ofTexts (ts : List Text) : toList? toText? (.ofTexts ts) = some ts :=
  toList?_array fun _ _ => rfl

@[simp]
theorem orNull_ofOption (t : Option Text) : orNull toText? (.ofOption t) = some t := by
  cases t <;> rfl

theorem describes_ofTexts (ts : List Text) : Describes (.list .atom) (.ofTexts ts) := by
  refine .list fun v hv => ?_
  obtain ⟨t, -, rfl⟩ := List.mem_map.1 hv
  exact .atom rfl

theorem describes_ofOption (t : Option Text) : Describes .atom (.ofOption t) := by
  cases t <;> exact .atom rfl

theorem describes_array {α : Type} {encode : α → Json} {schema : Schema}
    (h : ∀ x, Describes schema (encode x)) (xs : List α) :
    Describes (.list schema) (.array (xs.map encode)) := by
  refine .list fun v hv => ?_
  obtain ⟨x, -, rfl⟩ := List.mem_map.1 hv
  exact h x

theorem respects_texts : Respects (.list .atom) (toList? toText?) :=
  respects_toText?.toList?

end Json

open Json

/-! ## Scopes and settings -/

namespace ScopeList

/-- The JSON form of scopes. -/
def form : Form ScopeList :=
  ⟨.list .atom, toJson, ofJson?, fun _ => True⟩

theorem ofJson?_toJson (scopes : ScopeList) : ofJson? scopes.toJson = some scopes := by
  unfold ofJson? toJson
  rw [toList?_ofTexts]
  rfl

theorem respects_ofJson? : Respects (.list .atom) ofJson? := by
  intro v v' h
  unfold ofJson?
  rw [respects_texts v v' h]

theorem faithful_form : form.Faithful where
  describes scopes := describes_ofTexts scopes.keywords
  decode_encode scopes _ := ofJson?_toJson scopes
  decode_eq _ _ h := respects_ofJson?.sameData h

end ScopeList

namespace Settings

/-- The fields of settings: each has a default. -/
def record : List (RecordField Schema) :=
  [.defaulted "scopes" ({} : Settings).scopes.toJson (.list .atom),
   .defaulted "extensions" (.ofTexts ({} : Settings).extensions) (.list .atom),
   .defaulted "max_files" (limitToJson ({} : Settings).maxFiles) .atom,
   .defaulted "parallel_threads" (limitToJson ({} : Settings).threads) .atom,
   .defaulted "verbose" (.bool ({} : Settings).verbose) .atom]

/-- The JSON form of settings. -/
def form : Form Settings :=
  ⟨.record record, toJson, ofJson?,
    fun s => (∀ n ∈ s.maxFiles, n < countBound) ∧ ∀ n ∈ s.threads, n < countBound⟩

theorem fits_standard : form.Fits {} := by
  constructor <;> simp

theorem orNull_limitToJson {limit : Option Nat} (h : ∀ n ∈ limit, n < countBound) :
    orNull toCount? (limitToJson limit) = some limit := by
  cases limit with
  | none => rfl
  | some n =>
    change (toCount? (.ofNat n)).map some = some (some n)
    rw [toCount?_ofNat (h n rfl)]
    rfl

theorem describes_limitToJson (limit : Option Nat) : Describes .atom (limitToJson limit) := by
  cases limit <;> exact .atom rfl

theorem ofJson?_toJson {s : Settings} (h : form.Fits s) : ofJson? s.toJson = some s := by
  simp [ofJson?, toJson, membersOrDefault?, defaulted, List.lookup_cons, ScopeList.ofJson?_toJson,
    orNull_limitToJson h.1, orNull_limitToJson h.2]

theorem respects_ofJson? : Respects (.record record) ofJson? := by
  refine respects_recordOrDefault (by decide) fun m m' h => ?_
  rw [h.defaulted (by simp [record]) (ScopeList.ofJson?_toJson _) ScopeList.respects_ofJson?,
    h.defaulted (by simp [record]) (toList?_ofTexts _) respects_texts,
    h.defaulted (by simp [record]) (orNull_limitToJson fits_standard.1) respects_toCount?.orNull,
    h.defaulted (by simp [record]) (orNull_limitToJson fits_standard.2) respects_toCount?.orNull,
    h.defaulted (by simp [record]) (toBool?_bool _) respects_toBool?]

theorem faithful_form : form.Faithful where
  describes s := .record
    (.cons (describes_ofTexts s.scopes.keywords) (.cons (describes_ofTexts s.extensions)
      (.cons (describes_limitToJson s.maxFiles) (.cons (describes_limitToJson s.threads)
        (.cons (.atom rfl) .nil)))))
  decode_encode _ := ofJson?_toJson
  decode_eq _ _ h := respects_ofJson?.sameData h

end Settings

/-! ## Declarations -/

namespace Context

/-- The fields of a context. -/
def record : List (RecordField Schema) :=
  [.required "name" .atom, .required "is_interface" .atom]

/-- The JSON form of a context. -/
def form : Form Context :=
  ⟨.record record, toJson, ofJson?, fun _ => True⟩

theorem ofJson?_toJson (c : Context) : ofJson? c.toJson = some c :=
  rfl

theorem respects_ofJson? : Respects (.record record) ofJson? := by
  refine respects_record (by decide) fun m m' h => ?_
  rw [h.required (by simp [record]) respects_toText?, h.required (by simp [record]) respects_toBool?]

theorem faithful_form : form.Faithful where
  describes _ := .record (.cons (.atom rfl) (.cons (.atom rfl) .nil))
  decode_encode c _ := ofJson?_toJson c
  decode_eq _ _ h := respects_ofJson?.sameData h

end Context

namespace Declaration

/-- The JSON form of a kind. -/
def Kind.form : Form Kind :=
  ⟨.atom, Kind.toJson, Kind.ofJson?, fun _ => True⟩

theorem Kind.ofJson?_toJson (kind : Kind) : Kind.ofJson? kind.toJson = some kind := by
  cases kind with
  | type keyword => cases keyword <;> decide
  | constructor | method | property => decide

theorem Kind.ofJson?_object_eq_none {m : List (String × Json)} (h : ∀ key, m ≠ [(key, .null)]) :
    Kind.ofJson? (.object m) = none := by
  unfold Kind.ofJson?
  split
  · rename_i heq
    cases heq
  · rename_i key heq
    cases heq
    exact absurd rfl (h key)
  · rfl

/-- An object is read only with one member that is null, and there nothing can be respelled. -/
theorem Kind.respects_ofJson? : Respects .atom Kind.ofJson? := by
  intro v v' h
  cases h with
  | @reorder _ m m' _ hperm =>
    by_cases hm : ∃ key, m = [(key, .null)]
    · obtain ⟨key, rfl⟩ := hm
      rw [List.singleton_perm.1 hperm]
    · rw [Kind.ofJson?_object_eq_none fun key hkey => hm ⟨key, hkey⟩, Kind.ofJson?_object_eq_none]
      rintro key rfl
      exact hm ⟨key, List.perm_singleton.1 hperm⟩
  | @member _ key v v' m m' h =>
    have hnone {w : Json} (hw : isNested w = true) :
        Kind.ofJson? (.object (m ++ (key, w) :: m')) = none := by
      refine Kind.ofJson?_object_eq_none fun key' heq => ?_
      have hmem : (key, w) ∈ [(key', Json.null)] := heq ▸ List.mem_append_right m List.mem_cons_self
      obtain ⟨-, rfl⟩ := Prod.mk.inj (List.mem_singleton.1 hmem)
      cases hw
    rw [hnone h.isNested.1, hnone h.isNested.2]
  | item => rfl

theorem Kind.faithful_form : Kind.form.Faithful where
  describes _ := .atom rfl
  decode_encode kind _ := Kind.ofJson?_toJson kind
  decode_eq _ _ h := Kind.respects_ofJson?.sameData h

/-- The fields of a declaration; those that hold an option may be missing. -/
def record : List (RecordField Schema) :=
  [.required "kind" .atom, .optional "name" .atom, .optional "scope" .atom,
   .required "line_number" .atom, .required "signature" .atom, .optional "parent" .atom,
   .optional "doc_comment" .atom, .required "links" (.list .atom)]

/-- The JSON form of a declaration. -/
def form : Form Declaration :=
  ⟨.record record, toJson, ofJson?, fun d => d.lineNumber < countBound⟩

theorem ofJson?_toJson {d : Declaration} (h : form.Fits d) : ofJson? d.toJson = some d := by
  simp [ofJson?, toJson, members?, required, optional_eq, List.lookup_cons, Kind.ofJson?_toJson,
    toCount?_ofNat h]

theorem describes_toJson (d : Declaration) : Describes (.record record) d.toJson :=
  .record
    (.cons (.atom rfl) (.cons (describes_ofOption d.name) (.cons (describes_ofOption d.scope)
      (.cons (.atom rfl) (.cons (.atom rfl) (.cons (describes_ofOption d.parent)
        (.cons (describes_ofOption d.docComment) (.cons (describes_ofTexts d.links) .nil))))))))

theorem respects_ofJson? : Respects (.record record) ofJson? := by
  refine respects_record (by decide) fun m m' h => ?_
  rw [h.required (by simp [record]) Kind.respects_ofJson?, h.optional (by simp [record]) respects_toText?,
    h.optional (by simp [record]) respects_toText?, h.required (by simp [record]) respects_toCount?,
    h.required (by simp [record]) respects_toText?, h.optional (by simp [record]) respects_toText?,
    h.optional (by simp [record]) respects_toText?, h.required (by simp [record]) respects_texts]

theorem faithful_form : form.Faithful where
  describes := describes_toJson
  decode_encode _ := ofJson?_toJson
  decode_eq _ _ h := respects_ofJson?.sameData h

end Declaration

/-! ## Outlines and tallies -/

namespace Outline

def record : List (RecordField Schema) :=
  [.required "declarations" (.list (.record Declaration.record)), .required "skipped_lines" .atom]

/-- The JSON form of an outline. -/
def form : Form Outline :=
  ⟨.record record, toJson, ofJson?,
    fun o => (∀ d ∈ o.declarations, Declaration.form.Fits d) ∧ o.skippedLines < countBound⟩

theorem ofJson?_toJson {o : Outline} (h : form.Fits o) : ofJson? o.toJson = some o := by
  have hdeclarations := toList?_array fun d hd => Declaration.ofJson?_toJson (h.1 d hd)
  simp [ofJson?, toJson, members?, required, List.lookup_cons, hdeclarations, toCount?_ofNat h.2]

theorem respects_ofJson? : Respects (.record record) ofJson? := by
  refine respects_record (by decide) fun m m' h => ?_
  rw [h.required (by simp [record]) Declaration.respects_ofJson?.toList?,
    h.required (by simp [record]) respects_toCount?]

theorem faithful_form : form.Faithful where
  describes o := .record
    (.cons (describes_array Declaration.describes_toJson o.declarations) (.cons (.atom rfl) .nil))
  decode_encode _ := ofJson?_toJson
  decode_eq _ _ h := respects_ofJson?.sameData h

end Outline

namespace FileOutline

def record : List (RecordField Schema) :=
  [.required "file_path" .atom, .required "content_hash" .atom,
   .required "declarations" (.list (.record Declaration.record)), .required "skipped_lines" .atom]

/-- The JSON form of the outline of a file. -/
def form : Form FileOutline :=
  ⟨.record record, toJson, ofJson?,
    fun f => (∀ d ∈ f.declarations, Declaration.form.Fits d) ∧ f.skippedLines < countBound⟩

theorem ofJson?_toJson {f : FileOutline} (h : form.Fits f) : ofJson? f.toJson = some f := by
  have hdeclarations := toList?_array fun d hd => Declaration.ofJson?_toJson (h.1 d hd)
  simp [ofJson?, toJson, members?, required, List.lookup_cons, hdeclarations, toCount?_ofNat h.2]

theorem respects_ofJson? : Respects (.record record) ofJson? := by
  refine respects_record (by decide) fun m m' h => ?_
  rw [h.required (by simp [record]) respects_toText?, h.required (by simp [record]) respects_toText?,
    h.required (by simp [record]) Declaration.respects_ofJson?.toList?,
    h.required (by simp [record]) respects_toCount?]

theorem faithful_form : form.Faithful where
  describes f := .record
    (.cons (.atom rfl) (.cons (.atom rfl)
      (.cons (describes_array Declaration.describes_toJson f.declarations) (.cons (.atom rfl) .nil))))
  decode_encode _ := ofJson?_toJson
  decode_eq _ _ h := respects_ofJson?.sameData h

end FileOutline

namespace Tally

def record : List (RecordField Schema) :=
  [.required "total_files" .atom, .required "empty_files" .atom,
   .required "files_with_declarations" .atom, .required "error_files" .atom,
   .required "error_file_paths" (.list .atom), .required "total_declarations" .atom,
   .required "skipped_lines" .atom]

/-- The JSON form of a tally. -/
def form : Form Tally :=
  ⟨.record record, toJson, ofJson?,
    fun t => t.totalFiles < countBound ∧ t.emptyFiles < countBound ∧
      t.filesWithDeclarations < countBound ∧ t.errorFiles < countBound ∧
      t.totalDeclarations < countBound ∧ t.skippedLines < countBound⟩

theorem ofJson?_toJson {t : Tally} (h : form.Fits t) : ofJson? t.toJson = some t := by
  obtain ⟨htotal, hempty, hwith, herror, hdeclarations, hskipped⟩ := h
  simp [ofJson?, toJson, members?, required, List.lookup_cons, toCount?_ofNat, htotal, hempty, hwith,
    herror, hdeclarations, hskipped]

theorem respects_ofJson? : Respects (.record record) ofJson? := by
  refine respects_record (by decide) fun m m' h => ?_
  rw [h.required (by simp [record]) respects_toCount?, h.required (by simp [record]) respects_toCount?,
    h.required (by simp [record]) respects_toCount?, h.required (by simp [record]) respects_toCount?,
    h.required (by simp [record]) respects_texts, h.required (by simp [record]) respects_toCount?,
    h.required (by simp [record]) respects_toCount?]

theorem faithful_form : form.Faithful where
  describes t := .record
    (.cons (.atom rfl) (.cons (.atom rfl) (.cons (.atom rfl) (.cons (.atom rfl)
      (.cons (describes_ofTexts t.errorFilePaths) (.cons (.atom rfl) (.cons (.atom rfl) .nil)))))))
  decode_encode _ := ofJson?_toJson
  decode_eq _ _ h := respects_ofJson?.sameData h

end Tally

/-! ## All types -/

namespace Json

/-- Data of every type decodes to itself, and all spellings of it decode alike. -/
theorem forms_faithful :
    ScopeList.form.Faithful ∧ Settings.form.Faithful ∧ Context.form.Faithful ∧
      Declaration.Kind.form.Faithful ∧ Declaration.form.Faithful ∧ Outline.form.Faithful ∧
      FileOutline.form.Faithful ∧ Tally.form.Faithful :=
  ⟨ScopeList.faithful_form, Settings.faithful_form, Context.faithful_form,
    Declaration.Kind.faithful_form, Declaration.faithful_form, Outline.faithful_form,
    FileOutline.faithful_form, Tally.faithful_form⟩

/-- An outline with its keys in another order, a further key, and its declaration as an array; and settings
without two keys that have the default. -/
theorem forms_faithful_respelled :
    let d : Declaration :=
      ⟨.type .classWord, some "A".toList, none, 1, "class A".toList, none, none, []⟩
    let values : List Json :=
      [.text "class".toList, .text "A".toList, .null, .integer 1, .text "class A".toList, .null, .null,
       .array []]
    Outline.ofJson?
          (.object [("skipped_lines", .integer 2), ("note", .null),
            ("declarations", .array [.array values])]) =
        some ⟨[d], 2⟩ ∧
      Settings.ofJson?
          (.object [("extensions", .array []), ("parallel_threads", .null), ("verbose", .bool true)]) =
        some { extensions := [], verbose := true } := by
  intro d values
  obtain ⟨-, hsettings, -, -, -, houtline, -, -⟩ := forms_faithful
  constructor
  · have hfits : Outline.form.Fits ⟨[d], 2⟩ := by
      refine ⟨fun e he => ?_, by decide⟩
      rw [List.mem_singleton.1 he]
      change 1 < countBound
      decide
    have harray : Respells Outline.form.schema (Outline.toJson ⟨[d], 2⟩)
        (.object [("declarations", .array [.array values]), ("skipped_lines", .integer 2)]) :=
      @Respells.member _ "declarations" _ _ [] [("skipped_lines", .integer 2)]
        (@Respells.item _ _ _ [] [] (@Respells.positional Declaration.record values rfl))
    have hextra : Respells Outline.form.schema
        (.object [("declarations", .array [.array values]), ("skipped_lines", .integer 2)])
        (.object [("declarations", .array [.array values]), ("note", .null),
          ("skipped_lines", .integer 2)]) :=
      @Respells.extra Outline.record "note" .null [("declarations", .array [.array values])]
        [("skipped_lines", .integer 2)] (by decide)
    have horder : Respells Outline.form.schema
        (.object [("declarations", .array [.array values]), ("note", .null), ("skipped_lines", .integer 2)])
        (.object [("skipped_lines", .integer 2), ("note", .null),
          ("declarations", .array [.array values])]) :=
      .reorder (by decide) (List.reverse_perm _).symm
    have hsame := ((Relation.EqvGen.rel _ _ harray).trans _ _ _ (.rel _ _ hextra)).trans _ _ _
      (.rel _ _ horder)
    exact (houtline.decode_eq _ _ hsame).symm.trans (houtline.decode_encode ⟨[d], 2⟩ hfits)
  · have hfiles : Respells Settings.form.schema (Settings.toJson { extensions := [], verbose := true })
        (.object [("scopes", ScopeList.standard.toJson), ("extensions", .array []),
          ("parallel_threads", .null), ("verbose", .bool true)]) :=
      @Respells.leaveOut Settings.record (.defaulted "max_files" .null .atom) .null
        [("scopes", ScopeList.standard.toJson), ("extensions", .array [])]
        [("parallel_threads", .null), ("verbose", .bool true)] (.tail _ (.tail _ (.head _))) rfl (by decide)
    have hscopes : Respells Settings.form.schema
        (.object [("scopes", ScopeList.standard.toJson), ("extensions", .array []),
          ("parallel_threads", .null), ("verbose", .bool true)])
        (.object [("extensions", .array []), ("parallel_threads", .null), ("verbose", .bool true)]) :=
      @Respells.leaveOut Settings.record (.defaulted "scopes" ScopeList.standard.toJson (.list .atom)) _ []
        [("extensions", .array []), ("parallel_threads", .null), ("verbose", .bool true)] (.head _) rfl
        (by decide)
    have hsame := (Relation.EqvGen.rel _ _ hfiles).trans _ _ _ (.rel _ _ hscopes)
    exact (hsettings.decode_eq _ _ hsame).symm.trans (hsettings.decode_encode _ (by constructor <;> simp))

end Json

end ApexOutline
