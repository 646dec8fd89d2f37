import SqlSyntax.Proofs.Acceptance
import SqlSyntax.Proofs.Depth.Phrase
import SqlSyntax.Proofs.Nesting
import SqlSyntax.Proofs.WellFormed.Session

/-!
# The limit of nesting bounds what is parsed

No more expressions and queries are open at once than the limit allows, and what is parsed has
its brackets and its queries no deeper inside one another than follows from that.
-/
namespace SqlSyntax

open Grammar

theorem Paired.unclosed_le {n : Nat} {u v : List TokenKind} (h : Paired n u) (hv : v <+: u) :
    unclosed v ≤ n := by
  have hle := h.foldl_waiting_le hv 0
  rwa [Nat.zero_add] at hle

/-- While a statement is parsed that ends the input, at no point more expressions and queries
have been opened and not closed again than the limit allows. If there is a statement, then
nowhere in its tokens more brackets are open than one over the limit, or than two, and its
queries stand inside one another no deeper than half of that. So there is an error if more
brackets are open somewhere before the end marker. -/
theorem Session.parse_depth (s : Session) :
    (∀ before, before <+: (Parser.soleStatement s.options).history s.ahead →
      before.count .opened ≤ before.count .closed + s.options.maxDepth) ∧
    (∀ statement after, s.parse = (.ok statement, after) →
      (∀ u, u <+: (s.consumed after).map Token.kind →
        unclosed u ≤ max 2 (s.options.maxDepth + 1)) ∧
      statement.queryDepth ≤ (s.options.maxDepth + 1) / 2) ∧
    ∀ u, u <+: content (s.tokens.drop s.cursor) → max 2 (s.options.maxDepth + 1) < unclosed u →
      ∃ e, s.parse.1 = .error e := by
  have hsole := Shallow.sole s.options.allowJoinWithoutOn s.options.maxDepth
  refine ⟨fun before hb => ?_, fun statement after h => ?_, fun u hu hdeep => ?_⟩
  · have hkeeps := soleStatement_keeps s.options s.ahead
    obtain ⟨middle, hmiddle⟩ := exists_openAfter?_of_prefix hb hkeeps
    obtain ⟨hle, hcount⟩ := openAfter?_eq_some hmiddle (Nat.zero_le _)
    omega
  · obtain ⟨hpaired, hdepth⟩ := hsole (consumed_of_run (Reads.soleStatement _) h)
    exact ⟨fun u hu => hpaired.unclosed_le hu, hdepth⟩
  · cases hresult : s.parse.1 with
    | error e => exact ⟨e, rfl⟩
    | ok statement =>
      have hphrase := soleStatement_eq_ok_iff.mp (run_eq_ok_iff.mp hresult)
      exact absurd ((hsole hphrase).1.unclosed_le hu) (Nat.not_le.mpr hdeep)

/-- `SELECT (SELECT *)`, whose queries stand as deep as a limit of 3 allows. -/
def queryInQuery : List Token :=
  tokensOf [.keyword .select, .leftParen, .keyword .select, .star, .rightParen]

theorem Session.parse_depth_queryInQuery :
    ∃ statement, parseTokens queryInQuery ⟨3, true⟩ = .ok statement ∧
      statement.queryDepth = 2 ∧ statement.queryDepth ≤ (3 + 1) / 2 ∧
      ∃ e, parseTokens queryInQuery ⟨2, true⟩ = .error e := by
  have hparse : ∃ statement after, (start queryInQuery ⟨3, true⟩).parse = (.ok statement, after) ∧
      statement.queryDepth = 2 := ⟨_, _, by with_unfolding_all rfl, by decide⟩
  obtain ⟨statement, after, hparse, hdepth⟩ := hparse
  have hbound := ((start queryInQuery ⟨3, true⟩).parse_depth.2.1 statement after hparse).2
  have hdeep : ∃ e, parseTokens queryInQuery ⟨2, true⟩ = .error e :=
    ⟨_, by with_unfolding_all rfl⟩
  exact ⟨statement, congrArg Prod.fst hparse, hdepth, hbound, hdeep⟩

/-- `SELECT *` with three left brackets behind the end marker, which nobody reads. -/
def unreadBrackets : List Token := tokensOf [.keyword .select, .star, .endOfInput, .leftParen,
  .leftParen, .leftParen]

theorem parseTokens_unreadBrackets :
    max 2 (1 + 1) < unclosed (unreadBrackets.map Token.kind) ∧
      ¬∃ e, parseTokens unreadBrackets ⟨1, true⟩ = .error e := by
  have hparse : ∃ s, parseTokens unreadBrackets ⟨1, true⟩ = .ok s :=
    ⟨_, by with_unfolding_all rfl⟩
  obtain ⟨s, hs⟩ := hparse
  refine ⟨by decide, ?_⟩
  rintro ⟨e, he⟩
  cases hs.symm.trans he

end SqlSyntax
