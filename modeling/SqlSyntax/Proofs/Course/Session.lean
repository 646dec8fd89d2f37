import SqlSyntax.Proofs.Calls.Fresh
import SqlSyntax.Proofs.Course.Parser
import SqlSyntax.Proofs.DepthLimit

/-!
# Calls end by what they consume

The kinds that are left before the end marker bound a call, and the limit of nesting need not: what
begins in an expression or a query, and each further round of a repetition, has fewer of them left.
-/
namespace SqlSyntax

open SqlSyntax.Parser

/-! ## Kinds that are left -/

theorem content_drop_of_kindAt_ne {tokens : List Token} {i : Nat}
    (h : kindAt tokens i ≠ .endOfInput) :
    content (tokens.drop i) = kindAt tokens i :: content (tokens.drop (i + 1)) := by
  by_cases hi : i < tokens.length
  · have hkind : kindAt tokens i = tokens[i].kind := by simp [kindAt, hi]
    rw [hkind] at h ⊢
    rw [List.drop_eq_getElem_cons hi, content_cons h]
  · exact absurd (by simp [kindAt, hi]) h

/-- Past kinds that are no end marker fewer are left. -/
theorem length_content_drop_lt {tokens : List Token} {i j : Nat} (hij : i < j)
    (h : ∀ k, i ≤ k → k < j → kindAt tokens k ≠ .endOfInput) :
    (content (tokens.drop j)).length < (content (tokens.drop i)).length := by
  obtain ⟨n, rfl⟩ := Nat.exists_eq_add_of_lt hij
  have hfirst := content_drop_of_kindAt_ne (h (i + n) (by omega) (by omega))
  induction n with
  | zero =>
    rw [Nat.add_zero] at hfirst ⊢
    rw [hfirst, List.length_cons]
    omega
  | succ n ih =>
    have hbefore := ih (by omega) (fun k hle hlt => h k hle (by omega))
      (content_drop_of_kindAt_ne (h (i + n) (by omega) (by omega)))
    rw [← Nat.add_assoc] at hfirst
    rw [hfirst, List.length_cons] at hbefore
    exact Nat.lt_of_succ_lt hbefore

namespace Session

/-- The trace of a call, with cursors for places. -/
def trace (s : Session) (c : Call) : List (TraceEvent Nat) :=
  (c.parser s.options).events s.tokens s.ahead

/-- How many kinds there are from a cursor on, before the end marker. -/
def left (s : Session) (cursor : Nat) : Nat := (content (s.tokens.drop cursor)).length

theorem ahead_suffix (s : Session) : Ahead s.tokens s.ahead := (List.drop_suffix _ _).map _

theorem cursorAt_ahead {s : Session} (h : s.cursor ≤ s.tokens.length) :
    cursorAt s.tokens s.ahead = s.cursor := by
  simp only [cursorAt, ahead, List.length_map, List.length_drop]
  omega

/-- The call leaves the session where its parser stops. -/
theorem cursor_run {α : Type} {s : Session} (h : s.cursor ≤ s.tokens.length) (p : Parser α) :
    (s.run p).2.cursor = cursorAt s.tokens (p.stop s.ahead) := by
  have hlength := (stop_suffix p s.ahead).length_le
  have hahead : s.ahead.length = s.tokens.length - s.cursor := by simp [ahead]
  rw [cursorAt]
  cases hr : p.run s.ahead with
  | ok result =>
    rw [stop_of_ok hr] at hlength ⊢
    simp only [run, hr]
    omega
  | error failure =>
    rw [stop_of_error hr] at hlength ⊢
    simp only [run, hr]
    omega

theorem parser_hasCourse (o : ParserOptions) (c : Call) : HasCourse (c.parser o) := by
  cases c with
  | parse => exact soleStatement_hasCourse o
  | parseStatement => exact statement_hasCourse o

theorem parser_tooDeepAfter (o : ParserOptions) (c : Call) :
    TooDeepAfter o.maxDepth (c.parser o) := by
  cases c with
  | parse => exact soleStatement_tooDeepAfter o
  | parseStatement => exact statement_tooDeepAfter o

theorem course_call {s : Session} (h : s.cursor ≤ s.tokens.length) (c : Call) :
    Course s.tokens s.cursor s.cursor (s.trace c) (s.call c).2.cursor := by
  have hcourse := parser_hasCourse s.options c s.tokens s.ahead s.ahead_suffix
  rwa [cursorAt_ahead h, ← cursor_run h, ← call_eq_run] at hcourse

/-- An event that looks back to a place has fewer kinds left than there were. -/
theorem left_lt_of_mem {s : Session} (h : s.cursor ≤ s.tokens.length) {c : Call}
    {event : TraceEvent Nat} (hmem : event ∈ s.trace c) {before place : Nat}
    (hsince : event.since? = some (before, place)) :
    before < place ∧ s.left place < s.left before := by
  have hcourse := course_call h c
  obtain ⟨hstart, hlt, hle⟩ := hcourse.lt_of_mem hmem hsince
  exact ⟨hlt, length_content_drop_lt hlt fun _ _ _ => hcourse.kindAt_ne (by omega) (by omega)⟩

/-- Whatever is left of the levels of nesting, an expression that is read takes up a kind. And
whatever the limit of nesting, from any place in any tokens, the trace of a call is a course from
there to where the call leaves the session. So the cursor never goes back, comes no further than the
last token and goes over no end marker. What is begun within an expression or a query is begun later
than that, and a repetition that looks whether to go on does so later than it did before; in either
case fewer kinds are left before the end marker. And a call that fails at the limit of nesting has
consumed as many kinds as the limit is. -/
theorem call_advances :
    (∀ (o : ParserOptions) (left : Nat) (kinds rest : List TokenKind) (e : Expr),
      (nested o left).expr.run kinds = .ok (e, rest) → rest.length < kinds.length) ∧
    ∀ (s : Session) (c : Call), s.cursor ≤ s.tokens.length →
      let stop := (s.call c).2.cursor
      Course s.tokens s.cursor s.cursor (s.trace c) stop ∧
      (s.cursor ≤ stop ∧ stop ≤ s.tokens.length ∧
        ∀ i, s.cursor ≤ i → i < stop → kindAt s.tokens i ≠ .endOfInput) ∧
      (∀ outer place, .begun (some outer) place ∈ s.trace c →
        outer < place ∧ s.left place < s.left outer) ∧
      (∀ last place, .again last place ∈ s.trace c →
        last < place ∧ s.left place < s.left last) ∧
      (∀ first place, .finished first place ∈ s.trace c → first < place) ∧
      ∀ e limit, (s.call c).1 = .error e → e.cause = .tooDeep limit →
        s.cursor + s.options.maxDepth ≤ e.position := by
  refine ⟨fun _ _ _ _ _ => length_lt_of_expr, fun s c h => ?_⟩
  have hcourse := course_call h c
  have hbound : (s.call c).2.cursor ≤ s.tokens.length := by
    rw [call_eq_run]
    exact cursor_run_le s.tokens s.options h _
  refine ⟨hcourse, ⟨hcourse.le, hbound, fun _ => hcourse.kindAt_ne⟩,
    fun _ _ hmem => left_lt_of_mem h hmem rfl, fun _ _ hmem => left_lt_of_mem h hmem rfl,
    fun _ _ hmem => (left_lt_of_mem h hmem rfl).1, fun e limit he hcause => ?_⟩
  rw [call_eq_run] at he
  obtain ⟨f, hf, hfcause, hposition⟩ := failure_of_run he
  have hdeep := parser_tooDeepAfter s.options c s.ahead f limit hf (hfcause.trans hcause)
  omega

/-- `SELECT (1) , 2` after another token and before the end marker and another one. -/
def bracketed : Session where
  tokens := tokensOf [.semicolon, .keyword .select, .leftParen, .literal (.integer 1), .rightParen,
    .comma, .literal (.integer 2), .endOfInput, .star]
  cursor := 1
  options := ⟨3, true⟩

theorem call_advances_bracketed :
    bracketed.cursor ≤ bracketed.tokens.length ∧
      Course bracketed.tokens 1 1 (bracketed.trace .parseStatement) 7 ∧
      .begun (some 2) 3 ∈ bracketed.trace .parseStatement ∧ bracketed.left 3 < bracketed.left 2 ∧
      .again 5 7 ∈ bracketed.trace .parseStatement ∧ bracketed.left 7 < bracketed.left 5 := by
  have hcursor : bracketed.cursor ≤ bracketed.tokens.length := by decide
  have hstop : (bracketed.call .parseStatement).2.cursor = 7 := by with_unfolding_all rfl
  have htrace : bracketed.trace .parseStatement = [.begun none 1, .consumed 1, .begun (some 1) 2,
      .consumed 2, .begun (some 2) 3, .consumed 3, .finished 3 4, .consumed 4, .finished 2 5,
      .consumed 5, .begun (some 1) 6, .consumed 6, .finished 6 7, .again 5 7, .finished 1 7] := by
    with_unfolding_all rfl
  obtain ⟨hcourse, -, hbegun, hagain, -⟩ := call_advances.2 bracketed .parseStatement hcursor
  rw [hstop] at hcourse
  have hinner : .begun (some 2) 3 ∈ bracketed.trace .parseStatement := by simp [htrace]
  have hround : .again 5 7 ∈ bracketed.trace .parseStatement := by simp [htrace]
  exact ⟨hcursor, hcourse, hinner, (hbegun 2 3 hinner).2, hround, (hagain 5 7 hround).2⟩

end Session

end SqlSyntax
