import SqlSyntax.Proofs.Alike.Statement

/-!
# Runs that go on where others stop

One parser stops for a reason that another one does not know. Up to there both do the same.
What the other one does from there on is its own affair, but no parser goes back, so it ends
no earlier, and it blames no token before the place, save that a row of the wrong width is
blamed at its start.
-/
namespace SqlSyntax

open SqlSyntax.Parser

/-- The run ends, and blames, where no more than so many kinds are left. -/
def Reaches (left : Nat) : Except Failure (α × List TokenKind) → Prop
  | .ok (_, rest) => rest.length ≤ left
  | .error f => f.rest.length ≤ left ∧
      (f.blamed.length ≤ left ∨ ∃ values columns, f.cause = .rowWidth values columns)

/-- What begins where no more than so many kinds are left ends there too. -/
theorem reaches_of_within {left : Nat} {kinds : List TokenKind} (hle : kinds.length ≤ left)
    {o : Except Failure (α × List TokenKind)} (h : WithinInput kinds o) : Reaches left o := by
  match o with
  | .ok (_, rest) => exact Nat.le_trans (List.IsSuffix.length_le h) hle
  | .error f =>
    have hblamed := Nat.le_trans h.2.length_le hle
    exact ⟨Nat.le_trans h.1.length_le hblamed, .inl hblamed⟩

theorem Reaches.bind {left : Nat} {kinds : List TokenKind} {p : Parser α}
    (h : Reaches left (p.run kinds)) (f : α → Parser β) :
    Reaches left ((p >>= f).run kinds) := by
  rw [run_bind]
  cases hr : p.run kinds with
  | ok result =>
    rw [hr] at h
    exact reaches_of_within h ((f result.1).within result.2)
  | error failure =>
    rw [hr] at h
    exact h

/-- The reason is neither that a row has the wrong width nor that a token is out of place,
unless `ON` was asked for. So no parser stops for it but in a part that does so by itself. -/
structure Peculiar (reason : ParseCause → Prop) : Prop where
  rowWidth : ∀ values columns, ¬reason (.rowWidth values columns)
  unexpected : ∀ expected kinds, expected ≠ .token (.keyword .on) →
    ¬reason (.unexpected expected kinds)

/-- The second parser does with the kinds what the first one does, unless the first one stops
for the reason. Then the second one comes as far, and by the margin farther. -/
def OutlastsOn (reason : ParseCause → Prop) (margin : Nat) (kinds : List TokenKind)
    (p q : Parser α) : Prop :=
  (q.run kinds = p.run kinds ∧ ∀ f, p.run kinds = .error f → ¬reason f.cause) ∨
    ∃ f left, p.run kinds = .error f ∧ reason f.cause ∧ left + margin = f.blamed.length ∧
      Reaches left (q.run kinds)

def Outlasts (reason : ParseCause → Prop) (margin : Nat) (p q : Parser α) : Prop :=
  ∀ kinds, OutlastsOn reason margin kinds p q

variable {reason : ParseCause → Prop} {margin : Nat}

theorem OutlastsOn.of_ok {kinds : List TokenKind} {p q : Parser α} {result : α × List TokenKind}
    (hp : p.run kinds = .ok result) (hq : q.run kinds = .ok result) :
    OutlastsOn reason margin kinds p q :=
  .inl ⟨hq.trans hp.symm, fun _ hr => nomatch hp.symm.trans hr⟩

/-- The second parts have to be compared only on what the first parts leave. -/
theorem OutlastsOn.bind {kinds : List TokenKind} {p q : Parser α} {f g : α → Parser β}
    (hp : OutlastsOn reason margin kinds p q)
    (hf : ∀ a rest, p.run kinds = .ok (a, rest) → OutlastsOn reason margin rest (f a) (g a)) :
    OutlastsOn reason margin kinds (p >>= f) (q >>= g) := by
  obtain ⟨heq, hother⟩ | ⟨failure, left, hstop, hreason, hleft, hreach⟩ := hp
  · rw [OutlastsOn, run_bind, run_bind, heq]
    cases hr : p.run kinds with
    | ok result => exact hf result.1 result.2 hr
    | error failure => exact .inl ⟨rfl, fun _ he => Except.error.inj he ▸ hother failure hr⟩
  · exact .inr ⟨failure, left, by rw [run_bind, hstop], hreason, hleft, hreach.bind g⟩

namespace Outlasts

variable {α β : Type} {p q : Parser α}

/-- A parser outlasts itself if it never stops for the reason. -/
protected theorem refl (h : ∀ kinds f, p.run kinds = .error f → ¬reason f.cause) :
    Outlasts reason margin p p := fun kinds => .inl ⟨rfl, h kinds⟩

protected theorem pure (a : α) : Outlasts reason margin (pure a) (pure a) :=
  fun kinds => .of_ok (run_pure a kinds) (run_pure a kinds)

protected theorem unexpected {expected : Expectation}
    (h : ∀ kinds, ¬reason (.unexpected expected kinds)) :
    Outlasts reason margin (unexpected expected : Parser α) (unexpected expected) := by
  refine .refl fun kinds f hr => ?_
  cases hr
  exact h kinds

protected theorem bind {f g : α → Parser β} (hp : Outlasts reason margin p q)
    (hf : ∀ a, Outlasts reason margin (f a) (g a)) : Outlasts reason margin (p >>= f) (q >>= g) :=
  fun kinds => (hp kinds).bind fun a rest _ => hf a rest

protected theorem validate (hreason : Peculiar reason) {test : α → Option ParseCause}
    (htest : ∀ a cause, test a = some cause → ∃ values columns, cause = .rowWidth values columns)
    (hp : Outlasts reason margin p q) :
    Outlasts reason margin (p.validate test) (q.validate test) := by
  intro kinds
  obtain ⟨heq, hother⟩ | ⟨failure, left, hstop, hcause, hleft, hreach⟩ := hp kinds
  · refine .inl ⟨by simp only [Parser.validate, heq], fun failure hr => ?_⟩
    simp only [Parser.validate] at hr
    split at hr
    · rename_i hp'
      cases hr
      exact hother failure hp'
    · split at hr
      · cases hr
      · rename_i cause ht
        cases hr
        obtain ⟨values, columns, rfl⟩ := htest _ cause ht
        exact hreason.rowWidth values columns
  · refine .inr ⟨failure, left, by simp only [Parser.validate, hstop], hcause, hleft, ?_⟩
    simp only [Parser.validate]
    cases hq : q.run kinds with
    | error failure =>
      rw [hq] at hreach
      exact hreach
    | ok result =>
      rw [hq] at hreach
      obtain ⟨a, rest⟩ := result
      dsimp only
      cases ht : test a with
      | none => exact hreach
      | some cause => exact ⟨hreach, .inr (htest a cause ht)⟩

section Decisions

variable {f g : TokenKind → Option (Parser α)}
  (hs : ∀ kind, (f kind).isSome = (g kind).isSome)
include hs

protected theorem choose
    (hf : ∀ kind p q, f kind = some p → g kind = some q → Outlasts reason margin p q)
    (ho : Outlasts reason margin p q) : Outlasts reason margin (choose f p) (choose g q) := by
  intro kinds
  cases kinds with
  | nil => exact ho []
  | cons kind kinds =>
    rw [OutlastsOn, run_choose_cons, run_choose_cons]
    cases hk : f kind with
    | none =>
      rw [Alike.none_of_isSome_eq hs hk]
      exact ho (kind :: kinds)
    | some p =>
      obtain ⟨q, hq⟩ := Alike.exists_of_isSome_eq hs hk
      rw [hq]
      exact hf kind p q hk hq kinds

/-- Repetitions are compared round by round. Where a round of the first one stops for the
reason, it is enough how far the second one comes with this round and those that follow. -/
theorem many_of_rounds
    (hround : ∀ kind p q, f kind = some p → g kind = some q → ∀ kinds,
      OutlastsOn reason margin kinds p q ∨
        ∃ failure left, p.run kinds = .error failure ∧ reason failure.cause ∧
          left + margin = failure.blamed.length ∧ Reaches left ((many g).run (kind :: kinds))) :
    Outlasts reason margin (many f) (many g) := by
  intro kinds
  induction hlength : kinds.length using Nat.strongRecOn generalizing kinds with
  | ind n ih =>
    cases kinds with
    | nil => exact .of_ok (run_many_nil f) (run_many_nil g)
    | cons kind kinds =>
      cases hk : f kind with
      | none =>
        have hg := Alike.none_of_isSome_eq hs hk
        exact .of_ok (run_many_of_none hk kinds) (run_many_of_none hg kinds)
      | some p =>
        obtain ⟨q, hq⟩ := Alike.exists_of_isSome_eq hs hk
        obtain hboth | ⟨failure, left, hstop, hrest⟩ := hround kind p q hk hq kinds
        · rw [OutlastsOn, run_many_of_some hk, run_many_of_some hq]
          refine hboth.bind fun a rest hr => ?_
          have hlt : rest.length < n := hlength ▸ Nat.lt_succ_of_le (suffix_of_run hr).length_le
          exact (ih _ hlt rest rfl).bind fun as last _ => Outlasts.pure _ last
        · exact .inr ⟨failure, left, by rw [run_many_of_some hk, run_bind, hstop], hrest⟩

protected theorem many
    (hf : ∀ kind p q, f kind = some p → g kind = some q → Outlasts reason margin p q) :
    Outlasts reason margin (many f) (many g) :=
  many_of_rounds hs fun kind p q hk hq kinds => .inl (hf kind p q hk hq kinds)

end Decisions

end Outlasts

/-- Parsers that are put together in the same way from parsers that outlast others outlast
them. -/
theorem Alike.outlasts (hreason : Peculiar reason)
    {Base : ∀ {α : Type}, Parser α → Parser α → Prop}
    (hbase : ∀ {α : Type} {p q : Parser α}, Base p q → Outlasts reason margin p q)
    {p q : Parser α} (h : Alike Base p q) : Outlasts reason margin p q := by
  induction h with
  | base h => exact hbase h
  | pure a => exact .pure a
  | bind _ _ hp hf => exact hp.bind hf
  | unexpected hon => exact .unexpected fun kinds => hreason.unexpected _ kinds hon
  | peek _ _ h => exact fun kinds => h kinds.head? kinds
  | chooseOf _ hs _ _ hf ho => exact .choose hs hf ho
  | manyOf _ hs _ hf => exact .many hs hf

theorem checksRows_outlasts (hreason : Peculiar reason) :
    Alike.ChecksRows (Outlasts reason margin) :=
  fun htest h => (h.outlasts hreason id).validate hreason htest

/-! ## Sessions -/

namespace Session

variable {α : Type} {s t : Session} {p q : Parser α}

/-- A result comes from a run that gives it. -/
theorem exists_of_run_ok {a : α} (h : (s.run p).1 = .ok a) :
    ∃ rest, p.run s.ahead = .ok (a, rest) := by
  cases hr : p.run s.ahead with
  | ok result =>
    rw [run_of_ok hr] at h
    cases h
    exact ⟨result.2, rfl⟩
  | error f =>
    rw [run_of_error hr] at h
    cases h

/-- An error comes from a failure, and its position from what the failure blames. -/
theorem failure_of_run {e : ParseError} (h : (s.run p).1 = .error e) :
    ∃ f, p.run s.ahead = .error f ∧ f.cause = e.cause ∧
      e.position = s.cursor + (s.ahead.length - f.blamed.length) := by
  cases hr : p.run s.ahead with
  | ok result =>
    rw [run_of_ok hr] at h
    cases h
  | error f =>
    rw [run_of_error hr] at h
    cases h
    exact ⟨f, rfl, rfl, rfl⟩

/-- What a call gives does not depend on the options beside the parser. -/
theorem run_eq_of_outlasts (htokens : t.tokens = s.tokens) (hcursor : t.cursor = s.cursor)
    (h : OutlastsOn reason margin s.ahead p q)
    (hother : ∀ e, (s.run p).1 = .error e → ¬reason e.cause) : (t.run q).1 = (s.run p).1 := by
  obtain ⟨heq, -⟩ | ⟨f, -, hstop, hcause, -⟩ := h
  · have hahead : t.ahead = s.ahead := by rw [ahead, ahead, htokens, hcursor]
    have hspan : t.spanAt = s.spanAt := by
      funext position
      rw [spanAt, spanAt, htokens]
    simp only [run, hahead, hcursor, hspan, heq]
    cases p.run s.ahead <;> rfl
  · exact absurd hcause (hother _ (run_of_error hstop))

theorem reaches_of_outlasts (h : OutlastsOn reason margin s.ahead p q) {e : ParseError}
    (he : (s.run p).1 = .error e) (hcause : reason e.cause) :
    ∃ left, e.position + margin = s.cursor + (s.ahead.length - left) ∧
      Reaches left (q.run s.ahead) := by
  obtain ⟨f, hf, hfcause, hposition⟩ := failure_of_run he
  obtain ⟨-, hother⟩ | ⟨f', left, hstop, -, hleft, hreach⟩ := h
  · exact absurd (hfcause ▸ hcause) (hother f hf)
  · obtain rfl : f = f' := Except.error.inj (hf.symm.trans hstop)
    have hwithin := p.within s.ahead
    rw [hf] at hwithin
    have hblamed := hwithin.2.length_le
    exact ⟨left, by omega, hreach⟩

theorem le_cursor_of_reaches {left : Nat} (h : Reaches left (p.run s.ahead)) :
    s.cursor + (s.ahead.length - left) ≤ (s.run p).2.cursor := by
  simp only [run]
  cases hr : p.run s.ahead with
  | ok result =>
    rw [hr] at h
    exact Nat.add_le_add_left (Nat.sub_le_sub_left h _) _
  | error f =>
    rw [hr] at h
    exact Nat.add_le_add_left (Nat.sub_le_sub_left h.1 _) _

theorem le_position_of_reaches {left : Nat} (h : Reaches left (p.run s.ahead)) {e : ParseError}
    (he : (s.run p).1 = .error e) :
    (∃ values columns, e.cause = .rowWidth values columns) ∨
      s.cursor + (s.ahead.length - left) ≤ e.position := by
  obtain ⟨f, hf, hcause, hposition⟩ := failure_of_run he
  rw [hf] at h
  obtain ⟨-, hle | ⟨values, columns, hwidth⟩⟩ := h
  · right
    omega
  · exact .inl ⟨values, columns, hcause ▸ hwidth⟩

end Session

end SqlSyntax
