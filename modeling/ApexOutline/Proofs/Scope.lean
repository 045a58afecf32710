import ApexOutline.Context
import Mathlib.Tactic.Common
/-!
# Which lines have a scope

Whether a line has a scope depends only on which keywords are listed (`isSome_ofLine?_iff`), so
listing more of them keeps more lines (`isKept_mono`). A type header is kept whatever is listed.
-/

namespace ApexOutline

open Text

namespace Scope

/-- A line has a scope when some listed keyword names it, or when it is private by its shape and
`private` is listed. -/
theorem isSome_ofLine?_iff {line : Text} {scopes : ScopeList} :
    (ofLine? line scopes).isSome ↔
      (∃ k ∈ scopes.keywords, isExplicit (normalize line) k) ∨
        isImplicitlyPrivate (normalize line) ∧
          ∃ k ∈ scopes.keywords, eqIgnoringAsciiCase k privateWord := by
  unfold ofLine?
  dsimp only
  cases hfind : scopes.keywords.find? (isExplicit (normalize line)) with
  | some k =>
    have hk : isExplicit (normalize line) k := List.find?_some hfind
    simp only [Option.isSome_some, true_iff]
    exact .inl ⟨k, List.mem_of_find?_eq_some hfind, hk⟩
  | none =>
    have hnone : ¬ ∃ k ∈ scopes.keywords, isExplicit (normalize line) k := by
      rintro ⟨k, hk, hexplicit⟩
      exact List.find?_eq_none.1 hfind k hk hexplicit
    by_cases hprivate : isImplicitlyPrivate (normalize line) = true
    · simp only [hprivate, if_true, hnone, false_or, true_and, ScopeList.find?, List.find?_isSome]
    · simp only [hprivate, if_false, hnone, false_or, false_and, Option.isSome_none, Bool.false_eq_true]

/-- Listing more keywords finds a scope for more lines. -/
theorem isSome_ofLine?_mono {line : Text} {scopes scopes' : ScopeList}
    (hsub : scopes.keywords ⊆ scopes'.keywords) (h : (ofLine? line scopes).isSome) :
    (ofLine? line scopes').isSome := by
  rw [isSome_ofLine?_iff] at h ⊢
  rcases h with ⟨k, hk, hexplicit⟩ | ⟨hprivate, k, hk, heq⟩
  · exact .inl ⟨k, hsub hk, hexplicit⟩
  · exact .inr ⟨hprivate, k, hsub hk, heq⟩

end Scope

namespace Line

variable {line : Text} {scopes scopes' : ScopeList} {context : Option Context}

theorem isKept_of_header (h : (TypeHeader.ofLine? line).isSome) : isKept line scopes context = true := by
  simp [isKept, h]

/-- Listing more keywords keeps more lines. -/
theorem isKept_mono (hsub : scopes.keywords ⊆ scopes'.keywords) (h : isKept line scopes context = true) :
    isKept line scopes' context = true := by
  simp only [isKept, Bool.or_eq_true] at h ⊢
  rcases h with ((h | h) | h) | h
  · exact .inl (.inl (.inl (Scope.isSome_ofLine?_mono hsub h)))
  · exact .inl (.inl (.inr h))
  · exact .inl (.inr h)
  · exact .inr h

end Line

end ApexOutline
