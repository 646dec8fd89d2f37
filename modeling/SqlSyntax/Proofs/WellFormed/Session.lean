import SqlSyntax.Proofs.Accepting.Statement
import SqlSyntax.Proofs.Content
import SqlSyntax.Proofs.Reading.Statement

/-!
# Statements that are handed out are well-formed
-/
namespace SqlSyntax

open Grammar

/-- The tokens between two places. -/
def Session.consumed (before after : Session) : List Token :=
  (before.tokens.drop before.cursor).take (after.cursor - before.cursor)

/-- What a parser of a language consumes in a session is a phrase for what it gives. -/
theorem Session.consumed_of_run {α : Type} {p : Parser α} {L : Language α}
    (hp : Reads False p L) {before after : Session} {a : α}
    (h : before.run p = (.ok a, after)) : L ((before.consumed after).map Token.kind) a := by
  cases hr : p.run before.ahead with
  | ok result =>
    rw [Session.run_of_ok hr] at h
    cases h
    obtain ⟨u, hu, ha⟩ := hp.sound hr
    have hlength : before.ahead.length - result.2.length = u.length := by simp [hu]
    have hconsumed : before.ahead.take u.length = u := by simp [hu]
    rw [Session.ahead, ← List.map_take] at hconsumed
    simpa [Session.consumed, hlength, hconsumed] using ha
  | error failure =>
    have he := Session.run_of_error hr
    rw [h] at he
    cases he

/-- A statement that a session gives is well-formed, and among the tokens consumed for it
there is no operator that is spelled as a word. -/
theorem wellFormed_of_session {before after : Session} {s : Statement}
    (h : before.parse = (.ok s, after) ∨ before.parseStatement = (.ok s, after)) :
    s.WellFormed ∧ ∀ token ∈ before.consumed after,
      token.kind ≠ .operator .and ∧ token.kind ≠ .operator .or ∧ token.kind ≠ .operator .like := by
  have hyields : Clean ((before.consumed after).map Token.kind) ∧ s.WellFormed := by
    cases h with
    | inl h => exact Yields.sole _ _ (Session.consumed_of_run (Reads.soleStatement _) h)
    | inr h =>
      exact Yields.phrase (Yields.upTo _ _) (Session.consumed_of_run (Reads.statement _ 0) h)
  obtain ⟨hclean, hs⟩ := hyields
  refine ⟨hs, fun token ht => ?_⟩
  have hstray := hclean token.kind (List.mem_map_of_mem ht)
  refine ⟨?_, ?_, ?_⟩ <;> intro hk <;> rw [hk] at hstray <;> cases hstray

/-- `DELETE FROM t WHERE a NOT IN (- 1); AND`, where the last word is an operator. -/
def deletion : List Token := tokensOf [.keyword .delete, .keyword .from, .identifier "t",
  .keyword .where, .identifier "a", .keyword .not, .keyword .in, .leftParen, .operator .minus,
  .literal (.integer 1), .rightParen, .semicolon, .operator .and]

theorem wellFormed_of_session_deletion :
    (Statement.delete "t" (some (.inList (.identifier "a") [.integer (-1)] true))).WellFormed ∧
      ∀ token ∈ Session.consumed ⟨deletion, 0, ⟨2, true⟩⟩ ⟨deletion, 11, ⟨2, true⟩⟩,
        token.kind ≠ .operator .and ∧ token.kind ≠ .operator .or ∧
          token.kind ≠ .operator .like := by
  have hnumber : Disjunction (upTo true 0) _ (.integer (-1)) :=
    .single (.single (.predicate (.nullTest (.sum (.single (.single
      (.minus (.literal (.integer 1)))))))))
  have hcondition : Disjunction (upTo true 1) _
      (.inList (.identifier "a") [.integer (-1)] true) :=
    .single (.single (.predicate (.membership
      (.sum (.single (.single (.primary (.identifier "a"))))) .present (.list (.one hnumber)))))
  have hphrase : Phrase (upTo true 2) _ _ := .delete "t" (.present hcondition)
  have hpast : Past 9 [.semicolon, .operator .and] := past_of_lt (by decide) _
  have hrun : (Parser.statement ⟨2, true⟩).run (content deletion) =
      .ok (_, [.semicolon, .operator .and]) := Accepts.statement ⟨2, true⟩ hphrase hpast
  exact wellFormed_of_session (.inr (Session.run_of_ok (s := ⟨deletion, 0, ⟨2, true⟩⟩) hrun))

end SqlSyntax
