import SqlSyntax.Proofs.Lexing.Lexeme
import SqlSyntax.Token.Lexer

/-!
# Tokens away from their context

The text of a token is scanned as the same token wherever it stands, if what comes after it
there begins with spacing, or nothing comes after it. Where it is found, what comes after it may
be anything that begins as it does there.
-/
namespace SqlSyntax

/-- Spacing comes next, or nothing. -/
def Breaks (rest : List Char) : Prop := ∀ c ∈ rest.head?, isSpacing c = true

theorem breaks_nil : Breaks [] := nofun

theorem breaks_cons {c : Char} (hc : isSpacing c = true) (cs : List Char) : Breaks (c :: cs) := by
  intro d hd
  rwa [← Option.some.inj hd]

theorem isSpacing_iff {c : Char} :
    isSpacing c = true ↔ c = ' ' ∨ c = '\t' ∨ c = '\r' ∨ c = '\n' := by
  simp [isSpacing, or_assoc]

/-- What holds of each spacing character holds of what comes next. -/
theorem Breaks.forall {rest : List Char} (h : Breaks rest) {P : Char → Prop} (hspace : P ' ')
    (htab : P '\t') (hreturn : P '\r') (hfeed : P '\n') : ∀ c ∈ rest.head?, P c := by
  intro c hc
  obtain rfl | rfl | rfl | rfl := isSpacing_iff.mp (h c hc)
  · exact hspace
  · exact htab
  · exact hreturn
  · exact hfeed

/-- What comes next begins as `seen` does, or is a break. -/
def Resumes (seen rest : List Char) : Prop := rest.head? = seen.head? ∨ Breaks rest

theorem Resumes.append {seen rest : List Char} (h : Resumes seen rest) (u : List Char) :
    Resumes (u ++ seen) (u ++ rest) := by
  cases u with
  | nil => exact h
  | cons c u => exact .inl rfl

/-- Where spacing is put after what comes next, that begins as before. -/
theorem resumes_append {after : List Char} (h : Breaks after) (seen : List Char) :
    Resumes seen (seen ++ after) := by
  cases seen with
  | nil => exact .inr h
  | cons c seen => exact .inl rfl

/-! ## What is no token -/

theorem exists_scan_eq_error_of_isSpacing {c : Char} (h : isSpacing c = true) (cs : List Char) :
    ∃ cause, scan c cs = ⟨.error cause, [c], cs⟩ := by
  obtain rfl | rfl | rfl | rfl := isSpacing_iff.mp h
  all_goals
    rw [scan_eq_sign (by decide) (by decide) (by decide) (by decide)]
    exact ⟨_, rfl⟩

theorem scan_minus (cs : List Char) : scan '-' cs = ⟨.ok (.operator .minus), ['-'], cs⟩ := by
  rw [scan_eq_sign (by decide) (by decide) (by decide) (by decide)]
  rfl

theorem scan_comment (cs : List Char) :
    scan '/' ('*' :: cs) = ⟨.error .openComment, '/' :: '*' :: cs, []⟩ := by
  rw [scan_eq_sign (by decide) (by decide) (by decide) (by decide)]
  rfl

theorem wordKind_ne_endOfInput (word : String) : Scan.wordKind word ≠ .endOfInput := by
  intro h
  unfold Scan.wordKind at h
  split at h
  · cases h
  split at h
  · cases h
  split at h
  · cases h
  split at h <;> cases h

namespace Lexeme

variable {text seen rest : List Char} {kind : TokenKind} {goesOn : Char → Bool}

theorem ne_nil (h : Lexeme text kind goesOn) : text ≠ [] := by
  cases h with
  | word | quotedIdentifier | integer | float | string => exact List.cons_ne_nil _ _
  | sign hsign =>
    rintro rfl
    simp [signs] at hsign

theorem ne_endOfInput (h : Lexeme text kind goesOn) : kind ≠ .endOfInput := by
  cases h with
  | word => exact wordKind_ne_endOfInput _
  | quotedIdentifier | integer | float | string => nofun
  | sign hsign =>
    rintro rfl
    simp [signs] at hsign

theorem not_isEnd (h : Lexeme text kind goesOn) {span : Span} :
    (⟨kind, span⟩ : Token).isEnd = false :=
  decide_eq_false h.ne_endOfInput

/-- Spacing goes on from no token. -/
theorem stops_of_breaks (h : Lexeme text kind goesOn) (hrest : Breaks rest) :
    Stops goesOn rest := by
  cases h with
  | word | integer | float => exact hrest.forall (by decide) (by decide) (by decide) (by decide)
  | quotedIdentifier => exact fun _ _ => rfl
  | string hquote =>
    obtain rfl | rfl := hquote
    all_goals exact hrest.forall (by decide) (by decide) (by decide) (by decide)
  | sign =>
    unfold signGoesOn
    split <;> exact hrest.forall (by decide) (by decide) (by decide) (by decide)

theorem stops_of_resumes (h : Lexeme text kind goesOn) (hseen : Stops goesOn seen)
    (hrest : Resumes seen rest) : Stops goesOn rest := by
  obtain hhead | hbreak := hrest
  · unfold Stops
    rwa [hhead]
  · exact h.stops_of_breaks hbreak

/-- A minus after a minus begins a comment. -/
theorem goesOn_minus (h : Lexeme text kind goesOn) (htext : text = ['-']) : goesOn '-' = true := by
  cases h with
  | word hc | integer hc | float hc =>
    obtain ⟨rfl, -⟩ := List.cons.inj htext
    exact absurd hc (by decide)
  | quotedIdentifier => exact absurd (List.cons.inj htext).1 (by decide)
  | string hquote =>
    obtain ⟨rfl, -⟩ := List.cons.inj htext
    exact absurd hquote (by simp [IsQuote])
  | sign =>
    subst htext
    rfl

/-- A token begins with neither spacing nor a comment. -/
theorem splitTrivia_eq (h : Lexeme text kind goesOn) (hrest : Stops goesOn rest) :
    splitTrivia (text ++ rest) = ([], text ++ rest) := by
  obtain ⟨c, cs, rfl, hscan⟩ := h.exists_scan_eq
  have hscan := hscan rest hrest
  have hspacing : ¬isSpacing c = true := fun hc => by
    obtain ⟨cause, herror⟩ := exists_scan_eq_error_of_isSpacing hc (cs ++ rest)
    rw [herror] at hscan
    cases hscan
  have hcomment : splitComment? (c :: (cs ++ rest)) = none := by
    unfold splitComment?
    split
    · rename_i after heq
      obtain ⟨rfl, hafter⟩ := List.cons.inj heq
      rw [scan_minus] at hscan
      obtain rfl : [] = cs := (List.cons.inj (Scan.mk.inj hscan).2.1).2
      subst hafter
      exact absurd (hrest '-' rfl) (by simp [h.goesOn_minus rfl])
    · rename_i after heq
      obtain ⟨rfl, hafter⟩ := List.cons.inj heq
      rw [hafter, scan_comment] at hscan
      cases hscan
    · rfl
  exact splitTrivia_of_none hspacing hcomment

end Lexeme

/-! ## Texts of tokens -/

/-- The text is that of one token of the kind, in some context. -/
def IsTextOf (text : List Char) (kind : TokenKind) : Prop :=
  ∃ c cs, (scan c cs).kind = .ok kind ∧ (scan c cs).text = text

/-- A text of a token is one by itself. -/
theorem isTextOf_iff {text : List Char} {kind : TokenKind} :
    IsTextOf text kind ↔ ∃ goesOn, Lexeme text kind goesOn := by
  constructor
  · rintro ⟨c, cs, hkind, rfl⟩
    obtain ⟨goesOn, hlexeme, -⟩ := exists_lexeme_of_scan hkind
    exact ⟨goesOn, hlexeme⟩
  · rintro ⟨goesOn, hlexeme⟩
    obtain ⟨c, cs, rfl, hscan⟩ := hlexeme.exists_scan_eq
    have hscan := hscan [] (hlexeme.stops_of_breaks breaks_nil)
    exact ⟨c, cs ++ [], by rw [hscan], by rw [hscan]⟩

namespace IsTextOf

variable {text : List Char} {kind : TokenKind}

theorem ne_nil (h : IsTextOf text kind) : text ≠ [] := by
  obtain ⟨goesOn, hlexeme⟩ := isTextOf_iff.mp h
  exact hlexeme.ne_nil

theorem ne_endOfInput (h : IsTextOf text kind) : kind ≠ .endOfInput := by
  obtain ⟨goesOn, hlexeme⟩ := isTextOf_iff.mp h
  exact hlexeme.ne_endOfInput

theorem not_isEnd (h : IsTextOf text kind) {span : Span} :
    (⟨kind, span⟩ : Token).isEnd = false :=
  decide_eq_false h.ne_endOfInput

end IsTextOf

end SqlSyntax
