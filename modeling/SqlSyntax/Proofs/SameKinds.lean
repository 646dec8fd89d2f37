import SqlSyntax.Proofs.Content

/-!
# Only the kinds before the end count

No parser reads a span, or what comes after the first end marker, or whether the marker is
there. The span of an error is that of the token it blames, and nothing else of it differs
between tokens of the same kinds.
-/
namespace SqlSyntax

open SqlSyntax.Parser

/-- Tokens that agree up to where the input ends have the same content. -/
theorem content_eq_of_agreeBelow {tokens tokens' : List Token}
    (h : AgreeBelow ((content tokens).length + 1) tokens tokens') :
    content tokens' = content tokens := by
  obtain ⟨v, hv, hhead⟩ := content_of_agreeBelow (v := []) (List.append_nil _).symm h
  obtain rfl := List.head?_eq_none_iff.mp hhead.symm
  rw [hv, List.append_nil]

/-- From the same place and with the same content a parser gives the same value in two
sessions, or the same error but for the span. -/
theorem Session.run_sameKinds {α : Type} {p : Parser α} (hp : StopsAtEnd p) {s t : Session}
    (hcursor : t.cursor = s.cursor)
    (hcontent : content (t.tokens.drop t.cursor) = content (s.tokens.drop s.cursor)) :
    (∃ a, (s.run p).1 = .ok a ∧ (t.run p).1 = .ok a) ∨
      ∃ cause position, (s.run p).1 = .error ⟨cause, s.spanAt position, position⟩ ∧
        (t.run p).1 = .error ⟨cause, t.spanAt position, position⟩ := by
  cases hr : p.run (content (s.tokens.drop s.cursor)) with
  | ok result =>
    have hrt := hcontent ▸ hr
    exact .inl ⟨result.1, congrArg Prod.fst (run_content_of_ok hp hr),
      congrArg Prod.fst (run_content_of_ok hp hrt)⟩
  | error failure =>
    have hrt := hcontent ▸ hr
    have hright := run_content_of_error hp hrt
    rw [hcontent, hcursor] at hright
    exact .inr ⟨failure.cause, _, run_content_of_error hp hr, hright⟩

/-- Tokens whose kinds agree up to and including the first end marker, which counts as there
after the last token, are parsed to the same statement, or to errors with the same cause,
which holds the message, what is expected and what is found, at the same position. The span
of either error is that of the token at this position, and the empty one at the start of the
source if there is no such token. -/
theorem parseTokens_sameKinds {tokens tokens' : List Token} (o : ParserOptions)
    (h : AgreeBelow ((content tokens).length + 1) tokens tokens') :
    (∃ s, parseTokens tokens o = .ok s ∧ parseTokens tokens' o = .ok s) ∨
      ∃ cause position,
        parseTokens tokens o =
          .error ⟨cause, (Session.start tokens o).spanAt position, position⟩ ∧
        parseTokens tokens' o =
          .error ⟨cause, (Session.start tokens' o).spanAt position, position⟩ :=
  Session.run_sameKinds (soleStatement_stopsAtEnd o) (s := .start tokens o)
    (t := .start tokens' o) rfl (content_eq_of_agreeBelow h)

/-- `DELETE` without an end marker. -/
def unmarked : List Token := [⟨.keyword .delete, ⟨0, 6⟩⟩]

/-- `DELETE` elsewhere, before an end marker and a semicolon. -/
def marked : List Token :=
  [⟨.keyword .delete, ⟨2, 8⟩⟩, ⟨.endOfInput, ⟨9, 9⟩⟩, ⟨.semicolon, ⟨9, 10⟩⟩]

theorem parseTokens_sameKinds_delete :
    parseTokens unmarked ⟨1, true⟩ =
        .error ⟨.unexpectedEnd (.token (.keyword .from)), ⟨0, 0⟩, 1⟩ ∧
      parseTokens marked ⟨1, true⟩ =
        .error ⟨.unexpectedEnd (.token (.keyword .from)), ⟨9, 9⟩, 1⟩ := by
  have hagree : AgreeBelow ((content unmarked).length + 1) unmarked marked := by
    intro i hi
    match i, hi with
    | 0, _ | 1, _ => rfl
  have herror : parseTokens unmarked ⟨1, true⟩ =
      .error ⟨.unexpectedEnd (.token (.keyword .from)), ⟨0, 0⟩, 1⟩ := rfl
  obtain ⟨s, hok, -⟩ | ⟨cause, position, hfirst, hsecond⟩ :=
    parseTokens_sameKinds ⟨1, true⟩ hagree
  · cases herror.symm.trans hok
  · have heq := herror.symm.trans hfirst
    rw [Except.error.injEq, ParseError.mk.injEq] at heq
    obtain ⟨rfl, -, rfl⟩ := heq
    exact ⟨herror, hsecond⟩

end SqlSyntax
