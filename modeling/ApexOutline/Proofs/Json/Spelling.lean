import ApexOutline.Json.Record
import Mathlib.Data.List.Nodup
import Mathlib.Data.List.Perm.Basic
import Mathlib.Logic.Relation
/-!
# Spellings of the same data

One piece of data can be written as JSON in many ways. A `Schema` says where the records of a value stand
and which fields they have; `Respells` lists the changes that leave the data alone: keys in another order,
keys that no field has, fields that are left out because they say what a missing field says anyway, and
records as arrays of their fields. Decoders are built from a few readers, and the lemmas here say that
each of these reads all spellings alike (`Respects`). For a record this comes down to its fields: `Agree`
is what two lists of members have in common when one respells the other (`rel_members?`).
-/

namespace ApexOutline.Json

/-! ## Schemas -/

/-- A field of a record. -/
structure RecordField (σ : Type) where
  name : String
  /-- What the field counts as when it is missing, if it may be missing. -/
  absent : Option Json
  schema : σ

/-- Where records stand in a value. -/
inductive Schema where
  /-- Nowhere. -/
  | atom
  /-- In the items of an array. -/
  | list (item : Schema)
  /-- The value is a record with these fields, in the order of declaration. -/
  | record (fields : List (RecordField Schema))

/-- A field that has to be there. -/
def RecordField.required (name : String) (schema : Schema) : RecordField Schema :=
  ⟨name, none, schema⟩

/-- A field that counts as null when it is missing. -/
def RecordField.optional (name : String) (schema : Schema) : RecordField Schema :=
  ⟨name, some .null, schema⟩

/-- A field that takes a default when it is missing. -/
def RecordField.defaulted (name : String) (value : Json) (schema : Schema) : RecordField Schema :=
  ⟨name, some value, schema⟩

/-- The names of some fields. -/
def names (fields : List (RecordField Schema)) : List String :=
  fields.map (·.name)

namespace Schema

/-- The schema of the value that a key has. -/
def member : Schema → String → Schema
  | .record fields, key => ((fields.find? (·.name == key)).map (·.schema)).getD .atom
  | _, _ => .atom

/-- The schema of the item at a position. -/
def item : Schema → Nat → Schema
  | .list schema, _ => schema
  | .record fields, position => (fields[position]?.map (·.schema)).getD .atom
  | .atom, _ => .atom

end Schema

/-- Whether a value is an array or an object. -/
def isNested : Json → Bool
  | .array _ => true
  | .object _ => true
  | _ => false

/-- The value is written in the plain way: all its objects are records of the schema, with all fields
in the order of declaration. -/
inductive Describes : Schema → Json → Prop
  | atom {v : Json} : isNested v = false → Describes .atom v
  | list {schema : Schema} {items : List Json} : (∀ v ∈ items, Describes schema v) →
      Describes (.list schema) (.array items)
  | record {fields : List (RecordField Schema)} {values : List Json} :
      List.Forall₂ (fun f v => Describes f.schema v) fields values →
      Describes (.record fields) (.object ((names fields).zip values))

/-! ## Changes of spelling -/

/-- One change of spelling somewhere in a value. -/
inductive Respells : Schema → Json → Json → Prop
  -- The keys of an object, which are distinct, come in another order.
  | reorder {schema : Schema} {m m' : List (String × Json)} : (m.map Prod.fst).Nodup → m.Perm m' →
      Respells schema (.object m) (.object m')
  -- A record has a further key.
  | extra {fields : List (RecordField Schema)} {key : String} {v : Json} {m m' : List (String × Json)} :
      key ∉ names fields →
      Respells (.record fields) (.object (m ++ m')) (.object (m ++ (key, v) :: m'))
  -- A field is left out that has the value a missing one counts as.
  | leaveOut {fields : List (RecordField Schema)} {f : RecordField Schema} {v : Json}
        {m m' : List (String × Json)} :
      f ∈ fields → f.absent = some v → f.name ∉ (m ++ m').map Prod.fst →
      Respells (.record fields) (.object (m ++ (f.name, v) :: m')) (.object (m ++ m'))
  -- A record is written as the array of its fields.
  | positional {fields : List (RecordField Schema)} {values : List Json} : values.length = fields.length →
      Respells (.record fields) (.object ((names fields).zip values)) (.array values)
  -- The value of a key is respelled.
  | member {schema : Schema} {key : String} {v v' : Json} {m m' : List (String × Json)} :
      Respells (schema.member key) v v' →
      Respells schema (.object (m ++ (key, v) :: m')) (.object (m ++ (key, v') :: m'))
  -- An item of an array is respelled.
  | item {schema : Schema} {v v' : Json} {items items' : List Json} :
      Respells (schema.item items.length) v v' →
      Respells schema (.array (items ++ v :: items')) (.array (items ++ v' :: items'))

/-- Two values are spellings of the same data: any number of changes lead from one to the other. -/
def SameData (schema : Schema) : Json → Json → Prop :=
  Relation.EqvGen (Respells schema)

/-- A decoder gives the same answer for all spellings. -/
def Respects {α : Type} (schema : Schema) (decode : Json → Option α) : Prop :=
  ∀ v v', Respells schema v v' → decode v = decode v'

variable {α : Type} {schema : Schema} {fields : List (RecordField Schema)} {decode : Json → Option α}
  {m m' : List (String × Json)} {v v' : Json}

theorem Respects.sameData (h : Respects schema decode) (hsame : SameData schema v v') :
    decode v = decode v' := by
  induction hsame with
  | rel v v' hrespells => exact h v v' hrespells
  | refl v => rfl
  | symm v v' _ ih => exact ih.symm
  | trans v v' v'' _ _ ih ih' => exact ih.trans ih'

/-! ## Readers of values -/

theorem Respells.isNested (h : Respells schema v v') : isNested v = true ∧ isNested v' = true := by
  cases h <;> exact ⟨rfl, rfl⟩

/-- Arrays and objects are all that can be respelled. -/
theorem respects_of_none (harray : ∀ items, decode (.array items) = none)
    (hobject : ∀ m, decode (.object m) = none) : Respects schema decode := by
  intro v v' h
  cases h with
  | reorder | extra | leaveOut | member => rw [hobject, hobject]
  | positional => rw [hobject, harray]
  | item => rw [harray, harray]

theorem respects_toText? : Respects .atom toText? :=
  respects_of_none (fun _ => rfl) fun _ => rfl

theorem respects_toBool? : Respects .atom toBool? :=
  respects_of_none (fun _ => rfl) fun _ => rfl

theorem respects_toCount? : Respects .atom toCount? :=
  respects_of_none (fun _ => rfl) fun _ => rfl

theorem orNull_of_isNested (hv : isNested v = true) : orNull decode v = (decode v).map some := by
  cases v with
  | array | object => rfl
  | _ => cases hv

theorem Respects.orNull (h : Respects schema decode) : Respects schema (orNull decode) := by
  intro v v' hrespells
  rw [orNull_of_isNested hrespells.isNested.1, orNull_of_isNested hrespells.isNested.2, h v v' hrespells]

theorem Respects.toList? (h : Respects schema decode) : Respects (.list schema) (toList? decode) := by
  intro v v' hrespells
  cases hrespells with
  | reorder | member => rfl
  | @item _ v v' items items' hitem =>
    have hdecode : decode v = decode v' := h v v' hitem
    simp only [Json.toList?, List.mapM_append, List.mapM_cons, hdecode]

/-! ## Members -/

theorem lookup_eq_some_iff_mem (hnodup : (m.map Prod.fst).Nodup) {key : String} :
    m.lookup key = some v ↔ (key, v) ∈ m := by
  rw [List.lookup_eq_some_iff]
  constructor
  · rintro ⟨l, l', rfl, -⟩
    exact List.mem_append_right l List.mem_cons_self
  · intro hmem
    obtain ⟨l, l', rfl⟩ := List.append_of_mem hmem
    refine ⟨l, l', rfl, fun p hp => ?_⟩
    rw [List.map_append, List.map_cons, List.nodup_middle, List.nodup_cons] at hnodup
    simp only [bne_iff_ne, ne_eq]
    rintro rfl
    exact hnodup.1 (List.mem_append_left _ (List.mem_map.2 ⟨p, hp, rfl⟩))

/-- The order of distinct keys does not matter to a look-up. -/
theorem lookup_perm (hnodup : (m.map Prod.fst).Nodup) (h : m.Perm m') (key : String) :
    m.lookup key = m'.lookup key := by
  have hnodup' : (m'.map Prod.fst).Nodup := (h.map Prod.fst).nodup_iff.1 hnodup
  refine Option.ext fun v => ?_
  rw [lookup_eq_some_iff_mem hnodup, lookup_eq_some_iff_mem hnodup', h.mem_iff]

theorem lookup_middle_of_ne {key key' : String} (h : key ≠ key') (m m' : List (String × Json)) (v : Json) :
    (m ++ (key', v) :: m').lookup key = (m ++ m').lookup key := by
  simp only [List.lookup_append, List.lookup_cons, beq_eq_false_iff_ne.2 h]

theorem lookup_eq_none {key : String} (h : key ∉ m.map Prod.fst) : m.lookup key = none := by
  rw [List.lookup_eq_none_iff]
  intro p hp
  simp only [bne_iff_ne, ne_eq]
  rintro rfl
  exact h (List.mem_map_of_mem hp)

/-- The value of a field: that of its key, or what it counts as when it is missing. -/
def RecordField.value (f : RecordField Schema) (m : List (String × Json)) : Option Json :=
  (m.lookup f.name).or f.absent

/-- The members have the same data in every field. -/
def Agree (fields : List (RecordField Schema)) (m m' : List (String × Json)) : Prop :=
  ∀ f ∈ fields, ∀ {α : Type} (decode : Json → Option α), Respects f.schema decode →
    (f.value m).bind decode = (f.value m').bind decode

theorem Agree.of_lookup (h : ∀ f ∈ fields, m.lookup f.name = m'.lookup f.name) : Agree fields m m' := by
  intro f hf _ decode _
  rw [RecordField.value, RecordField.value, h f hf]

theorem eq_of_name_eq (hnames : (names fields).Nodup) {f g : RecordField Schema} (hf : f ∈ fields)
    (hg : g ∈ fields) (h : f.name = g.name) : f = g :=
  List.inj_on_of_nodup_map hnames hf hg h

theorem member_record (hnames : (names fields).Nodup) {f : RecordField Schema} (hf : f ∈ fields) :
    (Schema.record fields).member f.name = f.schema := by
  have hfind : fields.find? (·.name == f.name) = some f := by
    cases hfound : fields.find? (·.name == f.name) with
    | none => exact absurd (List.find?_eq_none.1 hfound f hf) (by simp)
    | some g =>
      have hname : g.name = f.name := by simpa using List.find?_some hfound
      rw [eq_of_name_eq hnames (List.mem_of_find?_eq_some hfound) hf hname]
  simp only [Schema.member, hfind, Option.map_some, Option.getD_some]

theorem agree_leaveOut (hnames : (names fields).Nodup) {f : RecordField Schema} (hf : f ∈ fields)
    (habsent : f.absent = some v) (hkey : f.name ∉ (m ++ m').map Prod.fst) :
    Agree fields (m ++ (f.name, v) :: m') (m ++ m') := by
  intro g hg _ decode _
  unfold RecordField.value
  by_cases hname : g.name = f.name
  · obtain rfl := eq_of_name_eq hnames hg hf hname
    have hfront : g.name ∉ m.map Prod.fst := fun h => hkey (by simp [h])
    rw [lookup_eq_none hkey, habsent, List.lookup_append, lookup_eq_none hfront, List.lookup_cons]
    simp
  · rw [lookup_middle_of_ne hname]

theorem agree_member (hnames : (names fields).Nodup) {key : String}
    (h : Respells ((Schema.record fields).member key) v v') (m m' : List (String × Json)) :
    Agree fields (m ++ (key, v) :: m') (m ++ (key, v') :: m') := by
  intro f hf _ decode hdecode
  unfold RecordField.value
  by_cases hname : f.name = key
  · subst hname
    rw [member_record hnames hf] at h
    rw [List.lookup_append, List.lookup_append, List.lookup_cons, List.lookup_cons]
    cases m.lookup f.name with
    | some w => rfl
    | none => simpa using hdecode v v' h
  · rw [lookup_middle_of_ne hname, lookup_middle_of_ne hname]

/-! ## Records -/

/-- The members of an array whose item at a position is respelled agree. -/
theorem agree_item (hnames : (names fields).Nodup) {items : List Json}
    (h : Respells ((Schema.record fields).item items.length) v v') (hlt : items.length < fields.length)
    (items' : List Json) :
    Agree fields ((names fields).zip (items ++ v :: items'))
      ((names fields).zip (items ++ v' :: items')) := by
  obtain ⟨front, f, back, rfl, hfront⟩ : ∃ front f back, fields = front ++ f :: back ∧
      front.length = items.length := by
    refine ⟨fields.take items.length, fields[items.length], fields.drop (items.length + 1), ?_, ?_⟩
    · rw [List.getElem_cons_drop, List.take_append_drop]
    · rw [List.length_take, Nat.min_eq_left (Nat.le_of_lt hlt)]
  have hitem : (Schema.record (front ++ f :: back)).item items.length = f.schema := by
    simp [Schema.item, ← hfront]
  rw [hitem, ← member_record hnames (List.mem_append_right front List.mem_cons_self)] at h
  have hzip (w : Json) : (names (front ++ f :: back)).zip (items ++ w :: items') =
      (names front).zip items ++ (f.name, w) :: (names back).zip items' := by
    unfold names
    rw [List.map_append, List.zip_append (by rw [List.length_map, hfront])]
    rfl
  rw [hzip, hzip]
  exact agree_member hnames h _ _

/-- Two spellings of a record have members that agree, or neither is a record. -/
theorem rel_members? (hnames : (names fields).Nodup) (h : Respells (.record fields) v v') :
    Option.Rel (Agree fields) (members? (names fields) v) (members? (names fields) v') ∧
      Option.Rel (Agree fields) (membersOrDefault? (names fields) v)
        (membersOrDefault? (names fields) v') := by
  have hlength : (names fields).length = fields.length := List.length_map _
  have hobjects {m m' : List (String × Json)} (h : Agree fields m m') :
      Option.Rel (Agree fields) (members? (names fields) (.object m))
          (members? (names fields) (.object m')) ∧
        Option.Rel (Agree fields) (membersOrDefault? (names fields) (.object m))
          (membersOrDefault? (names fields) (.object m')) :=
    ⟨.some h, .some h⟩
  cases h with
  | reorder hnodup hperm => exact hobjects (.of_lookup fun f _ => lookup_perm hnodup hperm f.name)
  | @extra _ key v m m' hkey =>
    refine hobjects (.of_lookup fun f hf => ?_)
    rw [lookup_middle_of_ne]
    rintro rfl
    exact hkey (List.mem_map_of_mem hf)
  | leaveOut hf habsent hkey => exact hobjects (agree_leaveOut hnames hf habsent hkey)
  | @positional _ values hvalues =>
    have hself : Agree fields ((names fields).zip values) ((names fields).zip values) :=
      .of_lookup fun _ _ => rfl
    simp only [members?, membersOrDefault?, hlength, hvalues, if_true, Nat.le_refl]
    exact ⟨.some hself, .some hself⟩
  | member h => exact hobjects (agree_member hnames h _ _)
  | @item _ v v' items items' h =>
    have hsame : (items ++ v' :: items').length = (items ++ v :: items').length := by simp
    simp only [members?, membersOrDefault?, hlength, hsame]
    by_cases hle : (items ++ v :: items').length ≤ fields.length
    · have hlt : items.length < fields.length := by
        rw [List.length_append, List.length_cons] at hle
        omega
      have hagree := agree_item hnames h hlt items'
      refine ⟨?_, ?_⟩
      · split
        · exact .some hagree
        · exact .none
      · rw [if_pos hle, if_pos hle]
        exact .some hagree
    · have hne : (items ++ v :: items').length ≠ fields.length := fun heq => hle (Nat.le_of_eq heq)
      rw [if_neg hne, if_neg hne, if_neg hle, if_neg hle]
      exact ⟨.none, .none⟩

theorem bind_eq_of_rel {x y : Option (List (String × Json))} (h : Option.Rel (Agree fields) x y)
    {read : List (String × Json) → Option α} (hread : ∀ m m', Agree fields m m' → read m = read m') :
    x.bind read = y.bind read := by
  cases h with
  | some hagree => exact hread _ _ hagree
  | none => rfl

/-- A record whose decoder reads nothing but its fields may be respelled. -/
theorem respects_record (hnames : (names fields).Nodup) {read : List (String × Json) → Option α}
    (hread : ∀ m m', Agree fields m m' → read m = read m') :
    Respects (.record fields) fun v => (members? (names fields) v).bind read :=
  fun _ _ h => bind_eq_of_rel (rel_members? hnames h).1 hread

theorem respects_recordOrDefault (hnames : (names fields).Nodup) {read : List (String × Json) → Option α}
    (hread : ∀ m m', Agree fields m m' → read m = read m') :
    Respects (.record fields) fun v => (membersOrDefault? (names fields) v).bind read :=
  fun _ _ h => bind_eq_of_rel (rel_members? hnames h).2 hread

/-! ## Readers of fields -/

theorem Agree.required (h : Agree fields m m') {name : String}
    (hf : RecordField.required name schema ∈ fields) (hdecode : Respects schema decode) :
    required decode m name = required decode m' name := by
  have hvalue := h _ hf decode hdecode
  simpa only [RecordField.value, RecordField.required, Json.required, Option.or_none] using hvalue

theorem optional_eq (decode : Json → Option α) (m : List (String × Json)) (name : String) :
    optional decode m name = ((m.lookup name).or (some .null)).bind (orNull decode) := by
  unfold Json.optional
  cases m.lookup name with
  | none => rfl
  | some w => cases w <;> rfl

theorem Agree.optional (h : Agree fields m m') {name : String}
    (hf : RecordField.optional name schema ∈ fields) (hdecode : Respects schema decode) :
    optional decode m name = optional decode m' name := by
  rw [optional_eq, optional_eq]
  exact h _ hf (orNull decode) hdecode.orNull

theorem defaulted_eq {default : α} (hv : decode v = some default) (m : List (String × Json))
    (name : String) :
    defaulted default decode m name = ((m.lookup name).or (some v)).bind decode := by
  unfold Json.defaulted
  cases m.lookup name with
  | none => exact hv.symm
  | some w => rfl

theorem Agree.defaulted (h : Agree fields m m') {name : String}
    (hf : RecordField.defaulted name v schema ∈ fields) {default : α} (hv : decode v = some default)
    (hdecode : Respects schema decode) :
    defaulted default decode m name = defaulted default decode m' name := by
  rw [defaulted_eq hv, defaulted_eq hv]
  exact h _ hf decode hdecode

end ApexOutline.Json
