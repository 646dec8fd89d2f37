import SqlSyntax.Parser.Session
import SqlSyntax.Proofs.EndMarker
import SqlSyntax.Proofs.WellFormed.Phrase

/-!
# Kinds before the end marker

A call sees the kinds from its place up to the first end marker, or to the end of the list if
there is no marker. Tokens that agree up to a place have the same content up to it. Kinds
without an end marker are the content of some tokens.
-/
namespace SqlSyntax

/-- The kinds before the end marker. -/
def content (tokens : List Token) : List TokenKind :=
  (tokens.takeWhile fun t => !t.isEnd).map Token.kind

theorem content_cons_of_isEnd {t : Token} (h : t.kind = .endOfInput) (ts : List Token) :
    content (t :: ts) = [] := by simp [content, Token.isEnd, h]

theorem content_cons {t : Token} (h : t.kind ≠ .endOfInput) (ts : List Token) :
    content (t :: ts) = t.kind :: content ts := by simp [content, Token.isEnd, h]

/-- Content that begins with a kind begins with the first token, which is no end marker. -/
theorem content_eq_cons_iff {tokens : List Token} {kind : TokenKind} {u : List TokenKind} :
    content tokens = kind :: u ↔
      ∃ t ts, tokens = t :: ts ∧ t.kind ≠ .endOfInput ∧ t.kind = kind ∧ content ts = u := by
  constructor
  · intro h
    cases tokens with
    | nil => cases h
    | cons t ts =>
      have ht : t.kind ≠ .endOfInput := by
        intro he
        rw [content_cons_of_isEnd he] at h
        cases h
      rw [content_cons ht, List.cons.injEq] at h
      exact ⟨t, ts, rfl, ht, h⟩
  · rintro ⟨t, ts, rfl, ht, rfl, rfl⟩
    exact content_cons ht ts

theorem endOfInput_notMem_content (tokens : List Token) : .endOfInput ∉ content tokens := by
  induction tokens with
  | nil => exact List.not_mem_nil
  | cons t ts ih =>
    by_cases ht : t.kind = .endOfInput
    · rw [content_cons_of_isEnd ht]
      exact List.not_mem_nil
    · rw [content_cons ht, List.mem_cons, not_or]
      exact ⟨Ne.symm ht, ih⟩

/-- What comes after the content is the end marker, if it is there, and other tokens. -/
theorem exists_map_kind_eq (tokens : List Token) :
    ∃ v, AtEnd v ∧ tokens.map Token.kind = content tokens ++ v := by
  induction tokens with
  | nil => exact ⟨[], nofun, rfl⟩
  | cons t ts ih =>
    by_cases ht : t.kind = .endOfInput
    · refine ⟨(t :: ts).map Token.kind, ?_, by rw [content_cons_of_isEnd ht]; rfl⟩
      intro kind hk
      cases hk
      exact ht
    · obtain ⟨v, hv, hts⟩ := ih
      exact ⟨v, hv, by rw [content_cons ht, List.map_cons, hts]; rfl⟩

/-! ## Runs on the content -/

namespace Session

variable {α : Type} {s : Session} {p : Parser α}

/-- A parser that stops at the end does with all kinds what it does with the content. -/
theorem exists_run_ahead (hp : StopsAtEnd p) (s : Session) :
    ∃ v, s.ahead = content (s.tokens.drop s.cursor) ++ v ∧
      p.run s.ahead = withRest v (p.run (content (s.tokens.drop s.cursor))) := by
  obtain ⟨v, hv, hahead⟩ := exists_map_kind_eq (s.tokens.drop s.cursor)
  refine ⟨v, hahead, ?_⟩
  rw [ahead, hahead]
  exact hp _ v (endOfInput_notMem_content _) hv

theorem run_content_of_ok (hp : StopsAtEnd p) {a : α} {rest : List TokenKind}
    (h : p.run (content (s.tokens.drop s.cursor)) = .ok (a, rest)) :
    s.run p = (.ok a, { s with
      cursor := s.cursor + ((content (s.tokens.drop s.cursor)).length - rest.length) }) := by
  obtain ⟨v, hahead, hrun⟩ := exists_run_ahead hp s
  rw [h] at hrun
  rw [run_of_ok hrun, hahead, List.length_append, List.length_append, Nat.add_sub_add_right]

theorem run_content_of_error (hp : StopsAtEnd p) {f : Failure}
    (h : p.run (content (s.tokens.drop s.cursor)) = .error f) :
    (s.run p).1 = .error ⟨f.cause,
      s.spanAt (s.cursor + ((content (s.tokens.drop s.cursor)).length - f.blamed.length)),
      s.cursor + ((content (s.tokens.drop s.cursor)).length - f.blamed.length)⟩ := by
  obtain ⟨v, hahead, hrun⟩ := exists_run_ahead hp s
  rw [h] at hrun
  rw [run_of_error hrun, hahead, List.length_append, List.length_append, Nat.add_sub_add_right]

end Session

/-! ## Tokens of given kinds -/

/-- Tokens of given kinds. -/
def tokensOf (kinds : List TokenKind) : List Token := kinds.map fun kind => ⟨kind, .point 0⟩

@[simp] theorem map_kind_tokensOf (kinds : List TokenKind) :
    (tokensOf kinds).map Token.kind = kinds := by
  simp [tokensOf, Function.comp_def]

theorem content_tokensOf {kinds : List TokenKind} (h : Clean kinds) :
    content (tokensOf kinds) = kinds := by
  induction kinds with
  | nil => rfl
  | cons kind kinds ih =>
    rw [clean_cons] at h
    have hk : kind ≠ .endOfInput := by
      rintro rfl
      cases h.1
    exact (content_cons hk _).trans (congrArg _ (ih h.2))

/-- The kinds before the end, where the first end marker is, are the content. -/
theorem content_of_atEnd {tokens : List Token} {u v : List TokenKind}
    (h : tokens.map Token.kind = u ++ v) (hu : .endOfInput ∉ u) (hv : AtEnd v) :
    content tokens = u := by
  induction u generalizing tokens with
  | nil =>
    cases tokens with
    | nil => rfl
    | cons t ts =>
      obtain rfl : t.kind :: ts.map Token.kind = v := h
      exact content_cons_of_isEnd (hv t.kind rfl) ts
  | cons kind u ih =>
    obtain ⟨t, ts, rfl, rfl, hts⟩ := List.map_eq_cons_iff.mp h
    rw [List.mem_cons, not_or] at hu
    rw [content_cons (Ne.symm hu.1), ih hts hu.2]

theorem content_of_map_kind {tokens : List Token} {u v : List TokenKind}
    (h : tokens.map Token.kind = u ++ .endOfInput :: v) (hu : .endOfInput ∉ u) :
    content tokens = u := by
  refine content_of_atEnd h hu ?_
  rintro _ ⟨⟩
  rfl

theorem content_drop {tokens : List Token} {u v : List TokenKind}
    (h : content tokens = u ++ v) : content (tokens.drop u.length) = v := by
  induction u generalizing tokens with
  | nil => exact h
  | cons kind u ih =>
    obtain ⟨t, ts, rfl, -, -, htail⟩ := content_eq_cons_iff.mp h
    exact ih htail

/-! ## Agreement up to a place -/

/-- The kind at an index, which is the end marker past the last token. -/
def kindAt (tokens : List Token) (i : Nat) : TokenKind :=
  (tokens[i]?.map Token.kind).getD .endOfInput

@[simp] theorem kindAt_nil (i : Nat) : kindAt [] i = .endOfInput := rfl
@[simp] theorem kindAt_zero (t : Token) (ts : List Token) : kindAt (t :: ts) 0 = t.kind := rfl
@[simp] theorem kindAt_succ (t : Token) (ts : List Token) (i : Nat) :
    kindAt (t :: ts) (i + 1) = kindAt ts i := by simp [kindAt]

/-- The kinds are the same at the indices below the given one. -/
def AgreeBelow (n : Nat) (tokens tokens' : List Token) : Prop :=
  ∀ i < n, kindAt tokens' i = kindAt tokens i

theorem head?_content (tokens : List Token) :
    (content tokens).head? =
      if kindAt tokens 0 = .endOfInput then none else some (kindAt tokens 0) := by
  cases tokens with
  | nil => rfl
  | cons t ts =>
    by_cases h : t.kind = .endOfInput
    · simp [content_cons_of_isEnd h, h]
    · simp [content_cons h, h]

/-- Tokens that agree up to a kind have the same content before it, and the same kind next. -/
theorem content_of_agreeBelow {u v : List TokenKind} {tokens tokens' : List Token}
    (h : content tokens = u ++ v) (ha : AgreeBelow (u.length + 1) tokens tokens') :
    ∃ v', content tokens' = u ++ v' ∧ v.head? = v'.head? := by
  induction u generalizing tokens tokens' with
  | nil =>
    refine ⟨content tokens', rfl, ?_⟩
    rw [List.nil_append] at h
    rw [← h, head?_content, head?_content, ha 0 (by simp)]
  | cons kind u ih =>
    obtain ⟨t, ts, rfl, ht, rfl, htail⟩ := content_eq_cons_iff.mp h
    have hzero := ha 0 (by simp)
    cases tokens' with
    | nil => exact absurd hzero.symm ht
    | cons t' ts' =>
      rw [kindAt_zero, kindAt_zero] at hzero
      have hts : AgreeBelow (u.length + 1) ts ts' := fun i hi => by
        simpa using ha (i + 1) (by simpa using hi)
      obtain ⟨v', hv', hhead⟩ := ih htail hts
      exact ⟨v', content_eq_cons_iff.mpr ⟨t', ts', rfl, hzero ▸ ht, hzero, hv'⟩, hhead⟩

theorem agreeBelow_tokensOf {u v w : List TokenKind} {tokens : List Token}
    (h : content tokens = u ++ v) : AgreeBelow u.length tokens (tokensOf (u ++ w)) := by
  induction u generalizing tokens with
  | nil => exact fun i hi => absurd hi (Nat.not_lt_zero i)
  | cons kind u ih =>
    obtain ⟨t, ts, rfl, -, rfl, htail⟩ := content_eq_cons_iff.mp h
    intro i hi
    cases i with
    | zero => rfl
    | succ i =>
      have := ih htail i (by simpa using hi)
      simpa [tokensOf] using this

end SqlSyntax
