import SqlSyntax.Proofs.Acceptance
import SqlSyntax.Proofs.Alike.Replay
import SqlSyntax.Proofs.Content

/-!
# Errors are found where they are

An error blames the first token that no statement can have after the tokens before it. That
it is wrong does not depend on what follows, nor on the limit of nesting; that the tokens
before it are not is shown by completing them.
-/
namespace SqlSyntax

open SqlSyntax.Parser Grammar

/-! ## Errors and failures -/

variable {tokens : List Token} {o : ParserOptions} {e : ParseError}

theorem failure_of_parseTokens (h : parseTokens tokens o = .error e) :
    ∃ u blamed rest, content tokens = u ++ blamed ∧ u.length = e.position ∧
      (soleStatement o).run (u ++ blamed) = .error ⟨e.cause, blamed, rest⟩ := by
  have hstops := soleStatement_stopsAtEnd o
  cases hr : (soleStatement o).run (content tokens) with
  | ok result =>
    have hok : parseTokens tokens o = .ok result.1 :=
      congrArg Prod.fst (Session.run_content_of_ok hstops (s := Session.start tokens o) hr)
    rw [h] at hok
    cases hok
  | error failure =>
    have he :=
      (Session.run_content_of_error hstops (s := Session.start tokens o) hr).symm.trans h
    cases he
    obtain ⟨u, hu⟩ := Replays.blamed_suffix hr
    refine ⟨u, failure.blamed, failure.rest, hu.symm, ?_, hu ▸ hr⟩
    simp [Session.start, ← hu]

theorem parseTokens_of_failure {u blamed rest : List TokenKind} {cause : ParseCause}
    (hu : content tokens = u ++ blamed)
    (hr : (soleStatement o).run (u ++ blamed) = .error ⟨cause, blamed, rest⟩) :
    ∃ e, parseTokens tokens o = .error e ∧ e.cause = cause ∧ e.position = u.length := by
  rw [← hu] at hr
  have hstops := soleStatement_stopsAtEnd o
  refine ⟨_, Session.run_content_of_error hstops (s := Session.start tokens o) hr, rfl, ?_⟩
  simp [Session.start, hu]

theorem isLimit_eq_false {cause : ParseCause} (hdepth : ∀ limit, cause ≠ .tooDeep limit)
    (hwidth : ∀ values columns, cause ≠ .rowWidth values columns) : cause.isLimit = false := by
  cases cause with
  | tooDeep limit => exact absurd rfl (hdepth limit)
  | rowWidth values columns => exact absurd rfl (hwidth values columns)
  | unexpectedToken | unexpectedEnd | other => rfl

/-- What is accepted under one limit is accepted under a higher one. -/
theorem run_of_le (o o' : ParserOptions) (hlax : o.allowJoinWithoutOn = o'.allowJoinWithoutOn)
    (hle : o.maxDepth ≤ o'.maxDepth) {kinds rest : List TokenKind} {s : Statement}
    (h : (soleStatement o).run kinds = .ok (s, rest)) :
    (soleStatement o').run kinds = .ok (s, rest) := by
  obtain ⟨u, rfl⟩ := suffix_of_run h
  exact (soleStatement_replays hlax hle).ok rfl h

/-- The tokens up to the one that is blamed are wrong whatever follows them. -/
theorem not_ok_of_failure (o o' : ParserOptions)
    (hlax : o.allowJoinWithoutOn = o'.allowJoinWithoutOn) {cause : ParseCause}
    {u blamed rest : List TokenKind} (hc : cause.isLimit = false)
    (hr : (soleStatement o).run (u ++ blamed) = .error ⟨cause, blamed, rest⟩) (s : Statement)
    (rest' : List TokenKind) : (soleStatement o').run (u ++ blamed) ≠ .ok (s, rest') := by
  intro hok
  cases Nat.le_total o.maxDepth o'.maxDepth with
  | inl hle =>
    rw [(soleStatement_replays hlax hle).error rfl hc hr] at hok
    cases hok
  | inr hle =>
    rw [run_of_le o' o hlax.symm hle hok] at hr
    cases hr

/-- An error that is about neither nesting nor the width of a row blames the first token
that cannot be right. All tokens that agree with the given ones up to and including the one
that is blamed get an error with the same cause, which holds the message, what is expected
and what is found, at the same place, and no limit of nesting makes them a statement.
Unless the tokens begin with an insertion that lists columns, some tokens that agree with
them before the place are a statement under every limit that is high enough. -/
theorem parseTokens_error_first (h : parseTokens tokens o = .error e)
    (hdepth : ∀ limit, e.cause ≠ .tooDeep limit)
    (hwidth : ∀ values columns, e.cause ≠ .rowWidth values columns) :
    (∀ tokens', AgreeBelow (e.position + 1) tokens tokens' →
      (∃ e', parseTokens tokens' o = .error e' ∧ e'.cause = e.cause ∧
        e'.position = e.position) ∧
      ∀ maxDepth s, parseTokens tokens' { o with maxDepth } ≠ .ok s) ∧
    (¬ListsColumns (content tokens) →
      ∃ tokens' depth, AgreeBelow e.position tokens tokens' ∧
        ∀ maxDepth, depth ≤ maxDepth → ∃ s, parseTokens tokens' { o with maxDepth } = .ok s) := by
  have hc := isLimit_eq_false hdepth hwidth
  obtain ⟨u, blamed, rest, hu, hposition, hr⟩ := failure_of_parseTokens h
  rw [← hposition]
  refine ⟨fun tokens' hagree => ?_, fun hcolumns => ?_⟩
  · obtain ⟨blamed', hu', hhead⟩ := content_of_agreeBelow hu hagree
    have hr' := (soleStatement_replays rfl (Nat.le_refl o.maxDepth)).error hhead hc hr
    refine ⟨parseTokens_of_failure hu' hr', fun maxDepth s hok => ?_⟩
    obtain ⟨rest', hok⟩ := Session.run_eq_ok_iff.mp hok
    exact not_ok_of_failure o { o with maxDepth } rfl hc hr' s rest' (hu' ▸ hok)
  · obtain ⟨u', v, s, hu', hs⟩ := Reads.soleStatement_viable hr hc (hu ▸ hcolumns)
    obtain rfl := List.append_cancel_right hu'
    refine ⟨tokensOf (u ++ v), o.maxDepth + 1, agreeBelow_tokensOf hu, fun maxDepth hle => ?_⟩
    have hok := Accepts.soleStatement { o with maxDepth := o.maxDepth + 1 } hs
    refine ⟨s, Session.run_eq_ok_iff.mpr ⟨[], ?_⟩⟩
    have hclean := (Yields.sole _ _ hs).1
    exact (content_tokensOf hclean).symm ▸ run_of_le { o with maxDepth := o.maxDepth + 1 }
      { o with maxDepth } rfl hle hok

/-- `CREATE TABLE t (a 1)`, where the type of the column should come last but one. -/
def numberForType : List Token :=
  tokensOf [.keyword .create, .keyword .table, .identifier "t", .leftParen, .identifier "a",
    .literal (.integer 1), .rightParen]

theorem parseTokens_error_first_numberForType :
    (∀ tokens', AgreeBelow 6 numberForType tokens' →
      (∃ e', parseTokens tokens' ⟨2, true⟩ = .error e' ∧
        e'.cause = .unexpectedToken .dataType (.literal (.integer 1)) ∧ e'.position = 5) ∧
      ∀ maxDepth s, parseTokens tokens' ⟨maxDepth, true⟩ ≠ .ok s) ∧
    ∃ tokens' depth, AgreeBelow 5 numberForType tokens' ∧
      ∀ maxDepth, depth ≤ maxDepth → ∃ s, parseTokens tokens' ⟨maxDepth, true⟩ = .ok s := by
  have herror : parseTokens numberForType ⟨2, true⟩ =
      .error ⟨.unexpectedToken .dataType (.literal (.integer 1)), .point 0, 5⟩ := rfl
  obtain ⟨hfirst, hprefix⟩ := parseTokens_error_first herror nofun nofun
  exact ⟨hfirst, hprefix nofun⟩

end SqlSyntax
