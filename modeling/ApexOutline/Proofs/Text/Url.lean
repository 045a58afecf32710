import ApexOutline.Proofs.Opening
import ApexOutline.Text.Url
import Mathlib
/-!
# The grammar of web links

`Url` is a link as it is written: a scheme, a host, and up to four parts behind their marks. A text is a link
exactly when it is written that way, blanks around it dropped (`isAuthorityAndRest_iff`), and in one way only
(`Url.text_injective`): no mark belongs to the part before it. The digits of the number behind the host may be
those of any script; they are the only characters of a link that need not be ASCII (`Url.isAscii_text_iff`).
-/

namespace ApexOutline.Text

/-! ## Links as they are written -/

/-- The characters of a host: letters, digits and four marks. -/
def Unreserved (c : Char) : Prop :=
  c.isAlphanum = true ∨ c ∈ "-._~".toList

/-- The marks that set off what is inside a part. -/
def SubDelim (c : Char) : Prop :=
  c ∈ "!$&'()*+,;=".toList

/-- The characters of a path. -/
def OfPath (c : Char) : Prop :=
  Unreserved c ∨ c = '%' ∨ SubDelim c ∨ c ∈ [':', '@', '/']

/-- The characters of a query and of a fragment. -/
def OfQuery (c : Char) : Prop :=
  OfPath c ∨ c = '?'

/-- A part behind its mark; nothing where the part is left out. -/
def marked (mark : Char) : Option Text → Text
  | none => []
  | some body => mark :: body

/-- A web link as it is written. Only the host and the number behind it have to hold a character. -/
structure Url where
  isSecure : Bool
  host : Text
  port : Option Text
  path : Option Text
  query : Option Text
  fragment : Option Text
  host_ne_nil : host ≠ []
  unreserved_host : ∀ c ∈ host, Unreserved c
  isDecimal_port : ∀ digits ∈ port, digits ≠ [] ∧ ∀ c ∈ digits, isDecimal c
  ofPath_path : ∀ body ∈ path, ∀ c ∈ body, OfPath c
  ofQuery_query : ∀ body ∈ query, ∀ c ∈ body, OfQuery c
  ofQuery_fragment : ∀ body ∈ fragment, ∀ c ∈ body, OfQuery c

namespace Url

/-- The scheme and the slashes. -/
def scheme (url : Url) : Text :=
  if url.isSecure then "https://".toList else "http://".toList

/-- What follows the query. -/
def afterQuery (url : Url) : Text :=
  marked '#' url.fragment

/-- What follows the path. -/
def afterPath (url : Url) : Text :=
  marked '?' url.query ++ url.afterQuery

/-- What follows the number. -/
def afterPort (url : Url) : Text :=
  marked '/' url.path ++ url.afterPath

/-- What follows the host. -/
def afterHost (url : Url) : Text :=
  marked ':' url.port ++ url.afterPort

/-- The text of a link. -/
def text (url : Url) : Text :=
  url.scheme ++ (url.host ++ url.afterHost)

end Url

/-! ## Characters -/

section

variable {c : Char}

theorem isHostChar_iff : isHostChar c = true ↔ Unreserved c := by
  rw [isHostChar, Bool.or_eq_true, List.contains_iff_mem]
  rfl

theorem isPathChar_iff : isPathChar c = true ↔ OfPath c := by
  have hmarks : "%!$&'()*+,;=:@/".toList = '%' :: ("!$&'()*+,;=".toList ++ [':', '@', '/']) := by decide
  rw [isPathChar, Bool.or_eq_true, isHostChar_iff, List.contains_iff_mem, hmarks, List.mem_cons, List.mem_append]
  rfl

theorem isQueryChar_iff : isQueryChar c = true ↔ OfQuery c := by
  rw [isQueryChar, Bool.or_eq_true, isPathChar_iff, beq_iff_eq]
  rfl

end

/-! ## Parts -/

variable {mark : Char} {p : Char → Bool} {part : Option Text} {rest : Text} {marks : List Char}

theorem head_marked_append (h : ∀ c ∈ rest.head?, c ∈ marks) :
    ∀ c ∈ (marked mark part ++ rest).head?, c ∈ mark :: marks := by
  intro c hc
  cases part with
  | none => exact List.mem_cons_of_mem mark (h c hc)
  | some body =>
    cases hc
    exact List.mem_cons_self

theorem head_marked : ∀ c ∈ (marked mark part).head?, c ∈ [mark] := by
  intro c hc
  cases part with
  | none => cases hc
  | some body =>
    cases hc
    exact List.mem_singleton_self mark

/-- A text whose first character is one of some marks is not opened by a character that is none. -/
theorem stops_of_marks (h : ∀ c ∈ rest.head?, c ∈ marks) (hp : marks.all (!p ·) = true) :
    ∀ c ∈ rest.head?, p c = false := by
  intro c hc
  simpa using List.all_eq_true.1 hp c (h c hc)

theorem dropPart_marked_append (hpart : ∀ body ∈ part, ∀ c ∈ body, p c)
    (hrest : ∀ c ∈ rest.head?, (c == mark || p c) = false) :
    dropPart mark p (marked mark part ++ rest) = rest := by
  have hstop : ∀ c ∈ rest.head?, p c = false := fun c hc => (Bool.or_eq_false_iff.1 (hrest c hc)).2
  cases part with
  | some body =>
    change (if (mark == mark) = true then (body ++ rest).dropWhile p else _) = rest
    rw [if_pos (beq_self_eq_true mark), dropWhile_append_of_stop hstop,
      List.dropWhile_eq_nil_iff.2 (hpart body rfl), List.nil_append]
  | none =>
    cases rest with
    | nil => rfl
    | cons c rest =>
      have hne := (Bool.or_eq_false_iff.1 (hrest c rfl)).1
      change (if (c == mark) = true then rest.dropWhile p else c :: rest) = c :: rest
      rw [if_neg (by simp [hne])]

theorem exists_marked (mark : Char) (p : Char → Bool) (t : Text) :
    ∃ part, (∀ body ∈ part, ∀ c ∈ body, p c) ∧ t = marked mark part ++ dropPart mark p t := by
  cases t with
  | nil => exact ⟨none, by simp, rfl⟩
  | cons c t =>
    by_cases hc : (c == mark) = true
    · refine ⟨some (t.takeWhile p), ?_, ?_⟩
      · rintro body ⟨⟩ d hd
        exact List.mem_takeWhile_imp hd
      · rw [dropPart, if_pos hc, beq_iff_eq.1 hc, marked, List.cons_append, List.takeWhile_append_dropWhile]
    · exact ⟨none, by simp, by simp only [dropPart, if_neg hc, marked, List.nil_append]⟩

theorem dropColonNumber_marked_append
    (hpart : ∀ digits ∈ part, digits ≠ [] ∧ ∀ c ∈ digits, isDecimal c)
    (hrest : ∀ c ∈ rest.head?, (c == ':' || isDecimal c) = false) :
    dropColonNumber (marked ':' part ++ rest) = rest := by
  cases part with
  | some digits =>
    obtain ⟨hne, hdigits⟩ := hpart digits rfl
    obtain ⟨c, digits, rfl⟩ := List.exists_cons_of_ne_nil hne
    obtain ⟨hc, hmore⟩ := List.forall_mem_cons.1 hdigits
    change (if isDecimal c = true then (digits ++ rest).dropWhile isDecimal else _) = rest
    rw [if_pos hc, dropWhile_append_of_stop fun d hd => (Bool.or_eq_false_iff.1 (hrest d hd)).2,
      List.dropWhile_eq_nil_iff.2 hmore, List.nil_append]
  | none =>
    rw [marked, List.nil_append]
    unfold dropColonNumber
    split
    · cases (Bool.or_eq_false_iff.1 (hrest ':' rfl)).1
    · rfl

theorem exists_marked_number (t : Text) :
    ∃ part, (∀ digits ∈ part, digits ≠ [] ∧ ∀ c ∈ digits, isDecimal c) ∧
      t = marked ':' part ++ dropColonNumber t := by
  unfold dropColonNumber
  split
  · rename_i c r
    split
    · rename_i hc
      refine ⟨some (c :: r.takeWhile isDecimal), ?_, ?_⟩
      · rintro digits ⟨⟩
        refine ⟨List.cons_ne_nil _ _, List.forall_mem_cons.2 ⟨hc, ?_⟩⟩
        intro d hd
        exact List.mem_takeWhile_imp hd
      · rw [marked, List.cons_append, List.cons_append, List.takeWhile_append_dropWhile]
    · exact ⟨none, by simp, rfl⟩
  · exact ⟨none, by simp, rfl⟩

/-- Before the same rest the same part is written in one way. -/
theorem marked_append_inj {part' : Option Text} {rest' : Text} (hrest : rest = rest')
    (h : marked mark part ++ rest = marked mark part' ++ rest') : part = part' := by
  rw [hrest, List.append_cancel_right_eq] at h
  cases part <;> cases part' <;> simp_all [marked]

namespace Url

variable {url url' : Url}

/-! ## A written link is read -/

theorem head_afterQuery (url : Url) : ∀ c ∈ url.afterQuery.head?, c ∈ ['#'] :=
  head_marked

theorem head_afterPath (url : Url) : ∀ c ∈ url.afterPath.head?, c ∈ ['?', '#'] :=
  head_marked_append url.head_afterQuery

theorem head_afterPort (url : Url) : ∀ c ∈ url.afterPort.head?, c ∈ ['/', '?', '#'] :=
  head_marked_append url.head_afterPath

theorem head_afterHost (url : Url) : ∀ c ∈ url.afterHost.head?, c ∈ [':', '/', '?', '#'] :=
  head_marked_append url.head_afterPort

theorem dropColonNumber_afterHost (url : Url) : dropColonNumber url.afterHost = url.afterPort :=
  dropColonNumber_marked_append url.isDecimal_port (stops_of_marks url.head_afterPort (by decide))

theorem dropPart_afterPort (url : Url) : dropPart '/' isPathChar url.afterPort = url.afterPath :=
  dropPart_marked_append (by simpa only [isPathChar_iff] using url.ofPath_path)
    (stops_of_marks url.head_afterPath (by decide))

theorem dropPart_afterPath (url : Url) : dropPart '?' isQueryChar url.afterPath = url.afterQuery :=
  dropPart_marked_append (by simpa only [isQueryChar_iff] using url.ofQuery_query)
    (stops_of_marks url.head_afterQuery (by decide))

theorem dropPart_afterQuery (url : Url) : dropPart '#' isQueryChar url.afterQuery = [] := by
  have h : dropPart '#' isQueryChar (marked '#' url.fragment ++ []) = [] :=
    dropPart_marked_append (by simpa only [isQueryChar_iff] using url.ofQuery_fragment) (by simp)
  rwa [List.append_nil] at h

theorem isHostChar_host (url : Url) : ∀ c ∈ url.host, isHostChar c = true :=
  fun c hc => isHostChar_iff.2 (url.unreserved_host c hc)

theorem isHostChar_afterHost (url : Url) : ∀ c ∈ url.afterHost.head?, isHostChar c = false :=
  stops_of_marks url.head_afterHost (by decide)

/-! ## What is read is a written link -/

theorem isAuthorityAndRest_iff {t : Text} (isSecure : Bool) :
    isAuthorityAndRest t = true ↔
      ∃ url : Url, url.isSecure = isSecure ∧ url.host ++ url.afterHost = t := by
  unfold isAuthorityAndRest
  simp only [Bool.and_eq_true, decide_eq_true_eq, List.isEmpty_iff]
  constructor
  · rintro ⟨hhost, hrest⟩
    have hsplit : t.takeWhile isHostChar ++ t.dropWhile isHostChar = t := List.takeWhile_append_dropWhile
    obtain ⟨port, hport, hafterHost⟩ := exists_marked_number (t.dropWhile isHostChar)
    obtain ⟨path, hpath, hafterPort⟩ := exists_marked '/' isPathChar (dropColonNumber (t.dropWhile isHostChar))
    obtain ⟨query, hquery, hafterPath⟩ :=
      exists_marked '?' isQueryChar (dropPart '/' isPathChar (dropColonNumber (t.dropWhile isHostChar)))
    obtain ⟨fragment, hfragment, hafterQuery⟩ := exists_marked '#' isQueryChar
      (dropPart '?' isQueryChar (dropPart '/' isPathChar (dropColonNumber (t.dropWhile isHostChar))))
    have hne : t.takeWhile isHostChar ≠ [] := by
      intro hnil
      rw [hnil, List.nil_append] at hsplit
      rw [hsplit] at hhost
      exact Nat.lt_irrefl _ hhost
    rw [hrest, List.append_nil] at hafterQuery
    have hunreserved : ∀ c ∈ t.takeWhile isHostChar, Unreserved c :=
      fun c hc => isHostChar_iff.1 (List.mem_takeWhile_imp hc)
    simp only [isPathChar_iff] at hpath
    simp only [isQueryChar_iff] at hquery hfragment
    refine ⟨⟨isSecure, t.takeWhile isHostChar, port, path, query, fragment, hne, hunreserved, hport, hpath, hquery,
      hfragment⟩, rfl, ?_⟩
    change _ ++ (marked ':' port ++ (marked '/' path ++ (marked '?' query ++ marked '#' fragment))) = t
    rw [← hafterQuery, ← hafterPath, ← hafterPort, ← hafterHost, hsplit]
  · rintro ⟨url, -, rfl⟩
    have hdrop : (url.host ++ url.afterHost).dropWhile isHostChar = url.afterHost := by
      rw [dropWhile_append_of_stop url.isHostChar_afterHost,
        List.dropWhile_eq_nil_iff.2 url.isHostChar_host, List.nil_append]
    have hlength := List.length_pos_of_ne_nil url.host_ne_nil
    rw [hdrop, dropColonNumber_afterHost, dropPart_afterPort, dropPart_afterPath, dropPart_afterQuery,
      List.length_append]
    exact ⟨by omega, rfl⟩

/-! ## One way to write it -/

/-- A text is written as a link in at most one way. -/
theorem text_injective (h : url.text = url'.text) : url = url' := by
  obtain ⟨hsecure, hbody⟩ : url.isSecure = url'.isSecure ∧
      url.host ++ url.afterHost = url'.host ++ url'.afterHost := by
    unfold text scheme at h
    cases hs : url.isSecure <;> cases hs' : url'.isSecure <;> simp_all
  obtain ⟨hhost, hafterHost⟩ := append_inj_of_stop url.isHostChar_host url'.isHostChar_host
    url.isHostChar_afterHost url'.isHostChar_afterHost hbody
  have hafterPort : url.afterPort = url'.afterPort := by
    rw [← dropColonNumber_afterHost, hafterHost, dropColonNumber_afterHost]
  have hafterPath : url.afterPath = url'.afterPath := by
    rw [← dropPart_afterPort, hafterPort, dropPart_afterPort]
  have hafterQuery : url.afterQuery = url'.afterQuery := by
    rw [← dropPart_afterPath, hafterPath, dropPart_afterPath]
  have hport : url.port = url'.port := marked_append_inj hafterPort hafterHost
  have hpath : url.path = url'.path := marked_append_inj hafterPath hafterPort
  have hquery : url.query = url'.query := marked_append_inj hafterQuery hafterPath
  have hlast : marked '#' url.fragment ++ [] = marked '#' url'.fragment ++ [] := by
    rw [List.append_nil, List.append_nil]
    exact hafterQuery
  have hfragment : url.fragment = url'.fragment := marked_append_inj rfl hlast
  cases url
  cases url'
  simp_all

/-! ## Characters of a link -/

theorem isAscii_of_isAlphanum {c : Char} (h : c.isAlphanum = true) : isAscii c = true := by
  simp only [Char.isAlphanum, Char.isAlpha, Char.isUpper, Char.isLower, Char.isDigit, Bool.or_eq_true,
    Bool.and_eq_true, decide_eq_true_eq, UInt32.le_iff_toNat_le, Char.reduceVal, UInt32.reduceToNat] at h
  simp only [isAscii, decide_eq_true_eq, Char.toNat]
  omega

theorem isAscii_of_ofQuery {c : Char} (h : OfQuery c) : isAscii c = true := by
  rcases h with ((h | h) | rfl | h | h) | rfl
  · exact isAscii_of_isAlphanum h
  · exact List.all_eq_true.1 (show "-._~".toList.all isAscii = true by decide) c h
  · decide
  · exact List.all_eq_true.1 (show "!$&'()*+,;=".toList.all isAscii = true by decide) c h
  · exact List.all_eq_true.1 (show [':', '@', '/'].all isAscii = true by decide) c h
  · decide

/-- Of the decimal digits of all scripts, those from 0 to 9 are ASCII. -/
theorem isAscii_iff_of_isDecimal {c : Char} (h : isDecimal c = true) : isAscii c = true ↔ c.isDigit = true := by
  constructor
  · intro hascii
    have htable : decimals.all (fun r => r == (0x30, 0x39) || 128 ≤ r.1) = true := by decide
    obtain ⟨r, hr, hc⟩ := List.any_eq_true.1 (Bool.and_eq_true_iff.1 h).1
    have hfirst := List.all_eq_true.1 htable r hr
    simp only [isAscii, Bool.and_eq_true, Bool.or_eq_true, beq_iff_eq, decide_eq_true_eq] at hc hfirst hascii
    rcases hfirst with rfl | hfirst
    · simp only [Char.isDigit, Bool.and_eq_true, decide_eq_true_eq, UInt32.le_iff_toNat_le, Char.reduceVal,
        UInt32.reduceToNat]
      exact hc
    · omega
  · intro hdigit
    exact isAscii_of_isAlphanum (by simp [Char.isAlphanum, hdigit])

theorem isBlank_of_ofQuery {c : Char} (h : OfQuery c) : isBlank c = false :=
  isBlank_eq_false (forall_isBlank (P := (isQueryChar · = false)) (by decide +kernel)) (isQueryChar_iff.2 h)

theorem isBlank_of_isDecimal {c : Char} (h : isDecimal c = true) : isBlank c = false :=
  isBlank_eq_false (forall_isBlank (P := (isDecimal · = false)) (by decide +kernel)) h

/-- The characters of a link are those of its query, the hash, and the digits of its number. -/
theorem mem_text {c : Char} (h : c ∈ url.text) :
    OfQuery c ∨ c = '#' ∨ ∃ digits ∈ url.port, c ∈ digits := by
  have hmarked {mark : Char} {part : Option Text} (h : c ∈ marked mark part) :
      c = mark ∨ ∃ body ∈ part, c ∈ body := by
    cases part with
    | none => cases h
    | some body => exact (List.mem_cons.1 h).imp_right fun hbody => ⟨body, rfl, hbody⟩
  unfold text afterHost afterPort afterPath afterQuery at h
  simp only [List.mem_append] at h
  rcases h with h | h | h | h | h | h
  · refine .inl (isQueryChar_iff.1 (List.all_eq_true.1 ?_ c h))
    unfold scheme
    split <;> decide
  · exact .inl (.inl (.inl (url.unreserved_host c h)))
  · rcases hmarked h with rfl | h
    · exact .inl (isQueryChar_iff.1 (by decide))
    · exact .inr (.inr h)
  · rcases hmarked h with rfl | ⟨body, hbody, h⟩
    · exact .inl (isQueryChar_iff.1 (by decide))
    · exact .inl (.inl (url.ofPath_path body hbody c h))
  · rcases hmarked h with rfl | ⟨body, hbody, h⟩
    · exact .inl (isQueryChar_iff.1 (by decide))
    · exact .inl (url.ofQuery_query body hbody c h)
  · rcases hmarked h with rfl | ⟨body, hbody, h⟩
    · exact .inr (.inl rfl)
    · exact .inl (url.ofQuery_fragment body hbody c h)

theorem mem_text_of_mem_port {digits : Text} (hdigits : digits ∈ url.port) {c : Char} (h : c ∈ digits) :
    c ∈ url.text := by
  have hport : marked ':' url.port = ':' :: digits := by rw [Option.mem_def.1 hdigits, marked]
  simp [text, afterHost, hport, h]

/-- No character of a link is blank. -/
theorem isBlank_text {c : Char} (h : c ∈ url.text) : isBlank c = false := by
  rcases mem_text h with h | rfl | ⟨digits, hdigits, h⟩
  · exact isBlank_of_ofQuery h
  · decide
  · exact isBlank_of_isDecimal ((url.isDecimal_port digits hdigits).2 c h)

/-- Only the number can make a link leave ASCII. -/
theorem isAscii_text_iff :
    (∀ c ∈ url.text, isAscii c) ↔ ∀ digits ∈ url.port, ∀ c ∈ digits, c.isDigit := by
  have hascii {digits : Text} (hdigits : digits ∈ url.port) {c : Char} (h : c ∈ digits) :
      isAscii c ↔ c.isDigit :=
    isAscii_iff_of_isDecimal ((url.isDecimal_port digits hdigits).2 c h)
  constructor
  · intro h digits hdigits c hc
    exact (hascii hdigits hc).1 (h c (mem_text_of_mem_port hdigits hc))
  · intro h c hc
    rcases mem_text hc with hc | rfl | ⟨digits, hdigits, hc⟩
    · exact isAscii_of_ofQuery hc
    · decide
    · exact (hascii hdigits hc).2 (h digits hdigits c hc)

end Url

/-! ## Links -/

/-- A text is a link exactly when it is written as one, blanks around it dropped, and then in one way only. No
character of it is blank; it is ASCII exactly when the digits of its number are those from 0 to 9. -/
theorem isUrl_grammar (t : Text) :
    (isUrl t = true ↔ ∃ url : Url, url.text = trim t) ∧
    (∀ url url' : Url, url.text = trim t → url'.text = trim t → url = url') ∧
    ∀ url : Url, url.text = trim t →
      (∀ c ∈ trim t, isBlank c = false) ∧
      ((∀ c ∈ trim t, isAscii c) ↔ ∀ digits ∈ url.port, ∀ c ∈ digits, c.isDigit) := by
  refine ⟨?_, ?_, ?_⟩
  · unfold isUrl
    simp only [List.any_cons, List.any_nil, Bool.or_false, Bool.or_eq_true, Option.any_eq_true,
      after?_eq_some_iff]
    constructor
    · rintro (⟨rest, ht, hrest⟩ | ⟨rest, ht, hrest⟩)
      · obtain ⟨url, hsecure, rfl⟩ := (Url.isAuthorityAndRest_iff false).1 hrest
        exact ⟨url, by rw [Url.text, Url.scheme, hsecure, ht]; rfl⟩
      · obtain ⟨url, hsecure, rfl⟩ := (Url.isAuthorityAndRest_iff true).1 hrest
        exact ⟨url, by rw [Url.text, Url.scheme, hsecure, ht]; rfl⟩
    · rintro ⟨url, hurl⟩
      have hrest := (Url.isAuthorityAndRest_iff url.isSecure).2 ⟨url, rfl, rfl⟩
      rw [← hurl]
      unfold Url.text Url.scheme
      cases url.isSecure with
      | false => exact .inl ⟨_, rfl, hrest⟩
      | true => exact .inr ⟨_, rfl, hrest⟩
  · intro url url' h h'
    exact Url.text_injective (h.trans h'.symm)
  · intro url h
    rw [← h]
    exact ⟨fun c hc => Url.isBlank_text hc, Url.isAscii_text_iff⟩

/-- A link whose number is written with an Arabic digit: it is no ASCII text. -/
theorem isUrl_grammar_port :
    let t := " http://a:\u0663/?#/? ".toList
    let url : Url :=
      { isSecure := false, host := "a".toList, port := some "\u0663".toList, path := some [], query := some [],
        fragment := some "/?".toList
        host_ne_nil := by decide
        unreserved_host := List.forall_mem_singleton.2 (.inl (by decide))
        isDecimal_port := by rintro _ ⟨⟩; exact ⟨by decide, List.all_eq_true.1 (by decide)⟩
        ofPath_path := by rintro _ ⟨⟩; exact List.forall_mem_nil _
        ofQuery_query := by rintro _ ⟨⟩; exact List.forall_mem_nil _
        ofQuery_fragment := by
          rintro _ ⟨⟩
          exact List.forall_mem_cons.2
            ⟨.inl (.inr (.inr (.inr (by decide)))), List.forall_mem_singleton.2 (.inr rfl)⟩ }
    isUrl t = true ∧ url.text = trim t ∧ ¬ ∀ c ∈ trim t, isAscii c := by
  intro t url
  have htext : url.text = trim t := by decide
  refine ⟨(isUrl_grammar t).1.2 ⟨url, htext⟩, htext, ?_⟩
  intro hascii
  have hdigit := ((isUrl_grammar t).2.2 url htext).2.1 hascii "\u0663".toList rfl '\u0663' (by decide)
  exact absurd hdigit (by decide)

end ApexOutline.Text
