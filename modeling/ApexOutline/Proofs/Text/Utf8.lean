import ApexOutline.Text.Utf8
import Mathlib.Tactic.Common
import Mathlib.Tactic.SplitIfs
/-!
# UTF-8 is read as it is written

An encoding is told by its bytes, one form for each length (`encode_eq_one_iff` to `encode_eq_four_iff`), and a
reader finds the encoding of a character where one stands, and otherwise a fault (`finds_readUnit`): as many
bytes as start an encoding, or a single byte (`IsFault`). So reading strictly accepts exactly the encodings of
texts (`decodeUtf8?_eq_some_iff`), and reading leniently puts a replacement character for every fault and leaves
everything else as it is (`mends_iff`).
-/

namespace ApexOutline.Text

variable {char : Char} {a b c d lead : UInt8} {bytes rest tail : Bytes}

/-! ## Bytes -/

theorem ofNat_eq_iff {n : Nat} (h : n < 256) : UInt8.ofNat n = a ↔ a.toNat = n := by
  rw [← UInt8.toNat_inj, UInt8.toNat_ofNat', Nat.mod_eq_of_lt h, eq_comm]

theorem eq_ofNat_iff {n : Nat} (h : n < 0xd800 ∨ 0xdfff < n ∧ n < 0x110000) :
    char = Char.ofNat n ↔ char.toNat = n := by
  have hn : (Char.ofNat n).toNat = n := by
    unfold Char.ofNat
    rw [dif_pos (show n.isValidChar from h)]
    rfl
  rw [← Char.toNat_inj, hn]

theorem isContinuation_iff : isContinuation b = true ↔ 0x80 ≤ b.toNat ∧ b.toNat ≤ 0xbf := by
  simp [isContinuation, UInt8.le_iff_toNat_le]

theorem mayFollow_iff :
    mayFollow lead b = true ↔ (0x80 ≤ b.toNat ∧ b.toNat ≤ 0xbf) ∧
      (lead.toNat = 0xe0 → 0xa0 ≤ b.toNat) ∧ (lead.toNat = 0xed → b.toNat ≤ 0x9f) ∧
      (lead.toNat = 0xf0 → 0x90 ≤ b.toNat) ∧ (lead.toNat = 0xf4 → b.toNat ≤ 0x8f) := by
  unfold mayFollow isContinuation
  split_ifs <;> simp_all [UInt8.le_iff_toNat_le, ← UInt8.toNat_inj] <;> omega

/-! ## Encodings -/

theorem encode_eq_one_iff :
    String.utf8EncodeChar char = [a] ↔ a.toNat < 0x80 ∧ char = Char.ofNat a.toNat := by
  have hv : char.val.toNat = char.toNat := rfl
  rw [and_congr_right fun h => eq_ofNat_iff (by omega)]
  simp only [String.utf8EncodeChar, hv]
  split_ifs <;>
    simp (disch := omega) only [List.cons.injEq, reduceCtorEq, ofNat_eq_iff, and_true, and_false, false_iff] <;>
    omega

theorem encode_eq_two_iff :
    String.utf8EncodeChar char = [a, b] ↔
      (0xc2 ≤ a.toNat ∧ a.toNat ≤ 0xdf) ∧ isContinuation b = true ∧ char = ofPayloads (a.toNat - 0xc0) [b] := by
  have hv : char.val.toNat = char.toNat := rfl
  simp only [isContinuation_iff, ofPayloads, List.foldl_cons, List.foldl_nil, ← and_assoc]
  rw [and_congr_right fun h => eq_ofNat_iff (by omega)]
  simp only [String.utf8EncodeChar, hv]
  split_ifs <;>
    simp (disch := omega) only [List.cons.injEq, reduceCtorEq, ofNat_eq_iff, and_true, and_false, false_iff] <;>
    omega

theorem encode_eq_three_iff :
    String.utf8EncodeChar char = [a, b, c] ↔
      (0xe0 ≤ a.toNat ∧ a.toNat ≤ 0xef) ∧ mayFollow a b = true ∧ isContinuation c = true ∧
        char = ofPayloads (a.toNat - 0xe0) [b, c] := by
  have hv : char.val.toNat = char.toNat := rfl
  have hvalid : char.toNat < 0xd800 ∨ 0xdfff < char.toNat ∧ char.toNat < 0x110000 := char.valid
  simp only [isContinuation_iff, mayFollow_iff, ofPayloads, List.foldl_cons, List.foldl_nil, ← and_assoc]
  rw [and_congr_right fun h => eq_ofNat_iff (by omega)]
  simp only [String.utf8EncodeChar, hv]
  split_ifs <;>
    simp (disch := omega) only [List.cons.injEq, reduceCtorEq, ofNat_eq_iff, and_true, and_false, false_iff] <;>
    omega

theorem encode_eq_four_iff :
    String.utf8EncodeChar char = [a, b, c, d] ↔
      (0xf0 ≤ a.toNat ∧ a.toNat ≤ 0xf4) ∧ mayFollow a b = true ∧ isContinuation c = true ∧
        isContinuation d = true ∧ char = ofPayloads (a.toNat - 0xf0) [b, c, d] := by
  have hv : char.val.toNat = char.toNat := rfl
  have hvalid : char.toNat < 0xd800 ∨ 0xdfff < char.toNat ∧ char.toNat < 0x110000 := char.valid
  simp only [isContinuation_iff, mayFollow_iff, ofPayloads, List.foldl_cons, List.foldl_nil, ← and_assoc]
  rw [and_congr_right fun h => eq_ofNat_iff (by omega)]
  simp only [String.utf8EncodeChar, hv]
  split_ifs <;>
    simp (disch := omega) only [List.cons.injEq, reduceCtorEq, ofNat_eq_iff, and_true, and_false, false_iff] <;>
    omega

/-! ## Reading a character -/

theorem readUnit_eq (lead : UInt8) (rest : Bytes) :
    readUnit lead rest =
      if lead.toNat < 0x80 then (some (Char.ofNat lead.toNat), 0)
      else if 0xc2 ≤ lead.toNat ∧ lead.toNat ≤ 0xdf then readTwo lead rest
      else if 0xe0 ≤ lead.toNat ∧ lead.toNat ≤ 0xef then readThree lead rest
      else if 0xf0 ≤ lead.toNat ∧ lead.toNat ≤ 0xf4 then readFour lead rest
      else (none, 0) := by
  simp [readUnit, UInt8.lt_iff_toNat_lt, UInt8.le_iff_toNat_le]

theorem encode_ne_nil (char : Char) : String.utf8EncodeChar char ≠ [] := by
  rw [← List.length_pos_iff, String.length_utf8EncodeChar]
  exact char.utf8Size_pos

/-- No encoding is longer than four bytes. -/
theorem encode_ne_five {e : UInt8} (h : String.utf8EncodeChar char = a :: b :: c :: d :: e :: tail) : False := by
  have hlength := congrArg List.length h
  have hsize := char.utf8Size_le_four
  rw [String.length_utf8EncodeChar] at hlength
  simp only [List.length_cons] at hlength
  omega

/-- Where the encoding of a character stands, the character is read. -/
theorem readUnit_of_encode (h : String.utf8EncodeChar char = lead :: tail) (rest : Bytes) :
    readUnit lead (tail ++ rest) = (some char, tail.length) := by
  rcases tail with _ | ⟨b, _ | ⟨c, _ | ⟨d, _ | ⟨e, tail⟩⟩⟩⟩
  · obtain ⟨hlead, hchar⟩ := encode_eq_one_iff.1 h
    rw [readUnit_eq, if_pos hlead, hchar]
    rfl
  · obtain ⟨hlead, hb, hchar⟩ := encode_eq_two_iff.1 h
    rw [readUnit_eq, if_neg (by omega), if_pos hlead, hchar]
    simp [readTwo, hb]
  · obtain ⟨hlead, hb, hc, hchar⟩ := encode_eq_three_iff.1 h
    rw [readUnit_eq, if_neg (by omega), if_neg (by omega), if_pos hlead, hchar]
    simp [readThree, hb, hc]
  · obtain ⟨hlead, hb, hc, hd, hchar⟩ := encode_eq_four_iff.1 h
    rw [readUnit_eq, if_neg (by omega), if_neg (by omega), if_neg (by omega), if_pos hlead, hchar]
    simp [readFour, hb, hc, hd]
  · exact (encode_ne_five h).elim

/-! ## Faults -/

/-- The bytes start the encoding of a character. -/
def StartsChar (bytes : Bytes) : Prop :=
  ∃ char, bytes <+: String.utf8EncodeChar char

/-- A fault before some bytes: no encoding stands there, and of the bytes there it takes as many as start one,
or a single byte if that does not. -/
structure IsFault (fault rest : Bytes) : Prop where
  ne_nil : fault ≠ []
  unread : ∀ char, ¬ String.utf8EncodeChar char <+: fault ++ rest
  starts : fault.length = 1 ∨ StartsChar fault
  longest : ∀ b ∈ rest.head?, ¬ StartsChar (fault ++ [b])

theorem startsChar_two_iff :
    StartsChar [a, b] ↔ (0xc2 ≤ a.toNat ∧ a.toNat ≤ 0xdf) ∧ isContinuation b = true ∨
      (0xe0 ≤ a.toNat ∧ a.toNat ≤ 0xf4) ∧ mayFollow a b = true := by
  constructor
  · rintro ⟨char, tail, h⟩
    rcases tail with _ | ⟨c, _ | ⟨d, _ | ⟨e, tail⟩⟩⟩
    · obtain ⟨hlead, hb, -⟩ := encode_eq_two_iff.1 h.symm
      exact .inl ⟨hlead, hb⟩
    · obtain ⟨hlead, hb, -⟩ := encode_eq_three_iff.1 h.symm
      exact .inr ⟨by omega, hb⟩
    · obtain ⟨hlead, hb, -⟩ := encode_eq_four_iff.1 h.symm
      exact .inr ⟨by omega, hb⟩
    · exact (encode_ne_five h.symm).elim
  · have hlast : isContinuation 0x80 = true := by decide
    rintro (⟨hlead, hb⟩ | ⟨hlead, hb⟩)
    · exact ⟨_, [], (encode_eq_two_iff.2 ⟨hlead, hb, rfl⟩).symm⟩
    · by_cases hthree : a.toNat ≤ 0xef
      · exact ⟨_, [0x80], (encode_eq_three_iff.2 ⟨⟨hlead.1, hthree⟩, hb, hlast, rfl⟩).symm⟩
      · exact ⟨_, [0x80, 0x80], (encode_eq_four_iff.2 ⟨by omega, hb, hlast, hlast, rfl⟩).symm⟩

theorem startsChar_three_iff :
    StartsChar [a, b, c] ↔
      (0xe0 ≤ a.toNat ∧ a.toNat ≤ 0xf4) ∧ mayFollow a b = true ∧ isContinuation c = true := by
  constructor
  · rintro ⟨char, tail, h⟩
    rcases tail with _ | ⟨d, _ | ⟨e, tail⟩⟩
    · obtain ⟨hlead, hb, hc, -⟩ := encode_eq_three_iff.1 h.symm
      exact ⟨by omega, hb, hc⟩
    · obtain ⟨hlead, hb, hc, -⟩ := encode_eq_four_iff.1 h.symm
      exact ⟨by omega, hb, hc⟩
    · exact (encode_ne_five h.symm).elim
  · rintro ⟨hlead, hb, hc⟩
    by_cases hthree : a.toNat ≤ 0xef
    · exact ⟨_, [], (encode_eq_three_iff.2 ⟨⟨hlead.1, hthree⟩, hb, hc, rfl⟩).symm⟩
    · exact ⟨_, [0x80], (encode_eq_four_iff.2 ⟨by omega, hb, hc, by decide, rfl⟩).symm⟩

theorem isContinuation_of_startsChar (h : StartsChar [a, b, c, d]) : isContinuation d = true := by
  obtain ⟨char, tail, h⟩ := h
  cases tail with
  | nil => exact (encode_eq_four_iff.1 h.symm).2.2.2.1
  | cons e tail => exact (encode_ne_five h.symm).elim

/-- Where no character is read, no encoding stands. -/
theorem isFault_of_none {taken : Bytes} (hnone : (readUnit lead (taken ++ rest)).1 = none)
    (hstarts : taken = [] ∨ StartsChar (lead :: taken))
    (hlongest : ∀ b ∈ rest.head?, ¬ StartsChar (lead :: (taken ++ [b]))) :
    IsFault (lead :: taken) rest where
  ne_nil := List.cons_ne_nil _ _
  unread char h := by
    obtain ⟨x, tail, hchar⟩ := List.exists_cons_of_ne_nil (encode_ne_nil char)
    rw [hchar, List.cons_append, List.cons_prefix_cons] at h
    obtain ⟨rfl, more, hmore⟩ := h
    rw [← hmore, readUnit_of_encode hchar] at hnone
    cases hnone
  starts := by
    rcases hstarts with rfl | hstarts
    · exact .inl rfl
    · exact .inr hstarts
  longest := hlongest

/-- What stands at a byte: the encoding of a character, or as many bytes as start one. -/
def Finds (lead : UInt8) (rest : Bytes) : Option Char × Nat → Prop
  | (some char, n) => String.utf8EncodeChar char = lead :: rest.take n
  | (none, n) =>
    (rest.take n = [] ∨ StartsChar (lead :: rest.take n)) ∧
      ∀ b ∈ (rest.drop n).head?, ¬ StartsChar (lead :: (rest.take n ++ [b]))

theorem finds_readTwo (hlead : 0xc2 ≤ lead.toNat ∧ lead.toNat ≤ 0xdf) (rest : Bytes) :
    Finds lead rest (readTwo lead rest) := by
  unfold readTwo
  split
  · rename_i b rest
    split_ifs with hb
    · exact encode_eq_two_iff.2 ⟨hlead, hb, rfl⟩
    · refine ⟨.inl rfl, ?_⟩
      rintro b ⟨⟩ hstarts
      rcases startsChar_two_iff.1 hstarts with ⟨-, hb'⟩ | ⟨hrange, -⟩
      · exact hb hb'
      · omega
  · exact ⟨.inl rfl, by simp⟩

/-- A byte that may not follow ends the fault at once. -/
theorem finds_lead (hlead : 0xe0 ≤ lead.toNat) (hb : ¬ mayFollow lead b = true) (rest : Bytes) :
    Finds lead (b :: rest) (none, 0) := by
  refine ⟨.inl rfl, ?_⟩
  rintro b ⟨⟩ hstarts
  rcases startsChar_two_iff.1 hstarts with ⟨hrange, -⟩ | ⟨-, hb'⟩
  · omega
  · exact hb hb'

/-- A byte that does not continue the character ends the fault before it. -/
theorem finds_two (hlead : 0xe0 ≤ lead.toNat ∧ lead.toNat ≤ 0xf4) (hb : mayFollow lead b = true)
    (hrest : ∀ c ∈ rest.head?, ¬ isContinuation c = true) : Finds lead (b :: rest) (none, 1) := by
  refine ⟨.inr (startsChar_two_iff.2 (.inr ⟨hlead, hb⟩)), ?_⟩
  intro c hc hstarts
  exact hrest c hc (startsChar_three_iff.1 hstarts).2.2

theorem finds_readThree (hlead : 0xe0 ≤ lead.toNat ∧ lead.toNat ≤ 0xef) (rest : Bytes) :
    Finds lead rest (readThree lead rest) := by
  have hrange : 0xe0 ≤ lead.toNat ∧ lead.toNat ≤ 0xf4 := by omega
  unfold readThree
  split
  · rename_i b c rest
    split_ifs with hb hc
    · exact encode_eq_three_iff.2 ⟨hlead, hb, hc, rfl⟩
    · exact finds_two hrange hb (by simpa using hc)
    · exact finds_lead hlead.1 hb _
  · split_ifs with hb
    · exact finds_two hrange hb (by simp)
    · exact finds_lead hlead.1 hb _
  · exact ⟨.inl rfl, by simp⟩

theorem finds_readFour (hlead : 0xf0 ≤ lead.toNat ∧ lead.toNat ≤ 0xf4) (rest : Bytes) :
    Finds lead rest (readFour lead rest) := by
  have hrange : 0xe0 ≤ lead.toNat ∧ lead.toNat ≤ 0xf4 := by omega
  unfold readFour
  split
  · rename_i b c d rest
    split_ifs with hb hc hd
    · exact encode_eq_four_iff.2 ⟨hlead, hb, hc, hd, rfl⟩
    · refine ⟨.inr (startsChar_three_iff.2 ⟨hrange, hb, hc⟩), ?_⟩
      rintro d ⟨⟩ hstarts
      exact hd (isContinuation_of_startsChar hstarts)
    · exact finds_two hrange hb (by simpa using hc)
    · exact finds_lead hrange.1 hb _
  · split_ifs with hb hc
    · exact ⟨.inr (startsChar_three_iff.2 ⟨hrange, hb, hc⟩), by simp⟩
    · exact finds_two hrange hb (by simpa using hc)
    · exact finds_lead hrange.1 hb _
  · split_ifs with hb
    · exact finds_two hrange hb (by simp)
    · exact finds_lead hrange.1 hb _
  · exact ⟨.inl rfl, by simp⟩

theorem finds_readUnit (lead : UInt8) (rest : Bytes) : Finds lead rest (readUnit lead rest) := by
  rw [readUnit_eq]
  split_ifs with hone htwo hthree hfour
  · exact encode_eq_one_iff.2 ⟨hone, rfl⟩
  · exact finds_readTwo htwo rest
  · exact finds_readThree hthree rest
  · exact finds_readFour hfour rest
  · refine ⟨.inl rfl, fun b _ hstarts => ?_⟩
    rcases startsChar_two_iff.1 hstarts with ⟨hrange, -⟩ | ⟨hrange, -⟩ <;> omega

/-- A character is read only where its encoding stands. -/
theorem encode_of_readUnit {n : Nat} (h : readUnit lead rest = (some char, n)) :
    String.utf8EncodeChar char = lead :: rest.take n := by
  have hfinds := finds_readUnit lead rest
  rwa [h] at hfinds

/-- What is read and is no character is a fault. -/
theorem isFault_of_readUnit {n : Nat} (h : readUnit lead rest = (none, n)) :
    IsFault (lead :: rest.take n) (rest.drop n) := by
  have hfinds := finds_readUnit lead rest
  rw [h] at hfinds
  refine isFault_of_none ?_ hfinds.1 hfinds.2
  rw [List.take_append_drop, h]

/-- Where no encoding stands, there is one fault. -/
theorem IsFault.eq {fault fault' rest' : Bytes} (h : IsFault fault rest) (h' : IsFault fault' rest')
    (heq : fault ++ rest = fault' ++ rest') : fault = fault' ∧ rest = rest' := by
  -- The shorter of two faults could take one more byte of the longer.
  have hshort {s s' r r' : Bytes} (hs : IsFault s r) (hs' : IsFault s' r') (hsame : s ++ r = s' ++ r')
      (hlt : s.length < s'.length) : False := by
    obtain ⟨more, rfl, rfl⟩ : ∃ more, s' = s ++ more ∧ r = more ++ r' := by
      rcases List.append_eq_append_iff.1 hsame with ⟨m, hm, hr⟩ | ⟨m, hm, hr⟩
      · exact ⟨m, hm, hr⟩
      · rw [hm, List.length_append] at hlt
        omega
    cases more with
    | nil => simp at hlt
    | cons b more =>
      have hstarts : StartsChar (s ++ b :: more) := by
        refine hs'.starts.resolve_left ?_
        have hpos := List.length_pos_iff.2 hs.ne_nil
        simp only [List.length_append, List.length_cons]
        omega
      obtain ⟨char, tail, hchar⟩ := hstarts
      exact hs.longest b rfl ⟨char, more ++ tail, by rw [← hchar]; simp⟩
  rcases Nat.lt_trichotomy fault.length fault'.length with hlt | hsame | hlt
  · exact (hshort h h' heq hlt).elim
  · exact List.append_inj heq hsame
  · exact (hshort h' h heq.symm hlt).elim

/-! ## Texts -/

variable {t : Text} {fault mended : Bytes}

theorem units_cons (lead : UInt8) (rest : Bytes) :
    units (lead :: rest) = (readUnit lead rest).1 :: units (rest.drop (readUnit lead rest).2) := by
  rw [units]

theorem units_encode_append (char : Char) (rest : Bytes) :
    units (String.utf8EncodeChar char ++ rest) = some char :: units rest := by
  obtain ⟨lead, tail, hchar⟩ := List.exists_cons_of_ne_nil (encode_ne_nil char)
  rw [hchar, List.cons_append, units_cons, readUnit_of_encode hchar, List.drop_left]

theorem IsFault.units_append (h : IsFault fault rest) : units (fault ++ rest) = none :: units rest := by
  obtain ⟨lead, tail, rfl⟩ := List.exists_cons_of_ne_nil h.ne_nil
  rw [List.cons_append, units_cons]
  cases hread : readUnit lead (tail ++ rest) with
  | mk found n =>
    cases found with
    | some char =>
      have hchar := encode_of_readUnit hread
      refine absurd ⟨(tail ++ rest).drop n, ?_⟩ (h.unread char)
      rw [hchar, List.cons_append, List.cons_append, List.take_append_drop]
    | none =>
      have hsplit : lead :: tail ++ rest = lead :: (tail ++ rest).take n ++ (tail ++ rest).drop n := by
        rw [List.cons_append, List.cons_append, List.take_append_drop]
      rw [← (h.eq (isFault_of_readUnit hread) hsplit).2]

theorem encodeUtf8_cons (char : Char) (t : Text) :
    encodeUtf8 (char :: t) = String.utf8EncodeChar char ++ encodeUtf8 t :=
  List.flatMap_cons

theorem units_encodeUtf8 (t : Text) : units (encodeUtf8 t) = t.map some := by
  induction t with
  | nil => rw [encodeUtf8, List.flatMap_nil, units, List.map_nil]
  | cons char t ih => rw [encodeUtf8_cons, units_encode_append, ih, List.map_cons]

/-- Bytes without a fault are the encoding of their characters. -/
theorem encodeUtf8_of_units (bytes : Bytes) : ∀ t, units bytes = t.map some → encodeUtf8 t = bytes := by
  fun_induction units bytes with
  | case1 =>
    intro t h
    rw [List.map_eq_nil_iff.1 h.symm]
    rfl
  | case2 lead rest next ih =>
    intro t h
    obtain ⟨char, t, rfl, hchar, hrest⟩ := List.map_eq_cons_iff.1 h.symm
    have hread : readUnit lead rest = (some char, next.2) := Prod.ext hchar.symm rfl
    rw [encodeUtf8_cons, encode_of_readUnit hread, ih t hrest.symm, List.cons_append, List.take_append_drop]

/-- Reading strictly accepts exactly the encodings. -/
theorem decodeUtf8?_eq_some_iff : decodeUtf8? bytes = some t ↔ encodeUtf8 t = bytes := by
  have hmap {us : List (Option Char)} {t : Text} : us.mapM id = some t ↔ us = t.map some := by
    induction us generalizing t with
    | nil => cases t <;> simp
    | cons u us ih => cases u <;> cases t <;> simp [List.mapM_cons, Option.bind_eq_some_iff, ih, and_comm]
  rw [decodeUtf8?, hmap]
  constructor
  · exact encodeUtf8_of_units bytes t
  · rintro rfl
    exact units_encodeUtf8 t

theorem decodeLossy_encode_append (char : Char) (rest : Bytes) :
    decodeLossy (String.utf8EncodeChar char ++ rest) = char :: decodeLossy rest := by
  rw [decodeLossy, units_encode_append]
  rfl

theorem IsFault.decodeLossy_append (h : IsFault fault rest) :
    decodeLossy (fault ++ rest) = '\ufffd' :: decodeLossy rest := by
  rw [decodeLossy, h.units_append]
  rfl

theorem decodeLossy_encodeUtf8 (t : Text) : decodeLossy (encodeUtf8 t) = t := by
  rw [decodeLossy, units_encodeUtf8, List.map_map]
  exact List.map_id t

/-- The bytes of a replacement character. -/
def replacement : Bytes :=
  [0xef, 0xbf, 0xbd]

/-- The bytes with every fault replaced. -/
inductive Mends : Bytes → Bytes → Prop
  | nil : Mends [] []
  | char (char : Char) {rest mended : Bytes} : Mends rest mended →
      Mends (String.utf8EncodeChar char ++ rest) (String.utf8EncodeChar char ++ mended)
  | fault {fault rest mended : Bytes} : IsFault fault rest → Mends rest mended →
      Mends (fault ++ rest) (replacement ++ mended)

theorem mends_decodeLossy (bytes : Bytes) : Mends bytes (encodeUtf8 (decodeLossy bytes)) := by
  fun_induction units bytes with
  | case1 =>
    rw [decodeLossy, units]
    exact .nil
  | case2 lead rest next ih =>
    cases hread : readUnit lead rest with
    | mk found n =>
      rw [show next = (found, n) from hread] at ih
      cases found with
      | some char =>
        have hbytes : lead :: rest = String.utf8EncodeChar char ++ rest.drop n := by
          rw [encode_of_readUnit hread, List.cons_append, List.take_append_drop]
        rw [hbytes, decodeLossy_encode_append, encodeUtf8_cons]
        exact .char char ih
      | none =>
        have hbytes : lead :: rest = lead :: rest.take n ++ rest.drop n := by
          rw [List.cons_append, List.take_append_drop]
        have hfault := isFault_of_readUnit hread
        rw [hbytes, hfault.decodeLossy_append, encodeUtf8_cons]
        exact .fault hfault ih

/-- Reading leniently replaces every fault, and nothing else. -/
theorem mends_iff : Mends bytes mended ↔ encodeUtf8 (decodeLossy bytes) = mended := by
  constructor
  · intro h
    induction h with
    | nil =>
      rw [decodeLossy, units]
      rfl
    | char char _ ih => rw [decodeLossy_encode_append, encodeUtf8_cons, ih]
    | fault hfault _ ih =>
      rw [hfault.decodeLossy_append, encodeUtf8_cons, ih]
      rfl
  · rintro rfl
    exact mends_decodeLossy bytes

/-- Mending changes no encoding, and leaves only encodings. -/
theorem mends_self_iff : Mends bytes bytes ↔ ∃ t, encodeUtf8 t = bytes := by
  rw [mends_iff]
  constructor
  · exact fun h => ⟨_, h⟩
  · rintro ⟨t, rfl⟩
    rw [decodeLossy_encodeUtf8]

end ApexOutline.Text
