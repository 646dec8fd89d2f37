import SqlSyntax.Proofs.Acceptance
import SqlSyntax.Proofs.Content
import SqlSyntax.Proofs.Names.Phrase

/-!
# No name is lost

Between the tokens and the tree of a statement no name and no string is lost, doubled or
moved.
-/
namespace SqlSyntax

open Grammar

/-- The names and strings before the end marker are those of the tree, in the same order,
whatever statement is parsed that does not make a table. -/
theorem names_of_parseTokens {tokens : List Token} {o : ParserOptions} {s : Statement}
    (h : parseTokens tokens o = .ok s) (hs : ∀ table columns, s ≠ .createTable table columns) :
    namesOf (content tokens) = s.names :=
  Spells.sole (parseTokens_eq_ok_iff_sole.mp h) hs

/-- `UPDATE a SET b = - 'c' WHERE d.e IN (SELECT f.* g FROM h i JOIN j ON *)`, with a name
after the end marker. -/
def assigning : List Token := tokensOf [.keyword .update, .identifier "a", .keyword .set,
  .identifier "b", .operator .equals, .operator .minus, .literal (.string "c"),
  .keyword .where, .identifier "d", .dot, .identifier "e", .keyword .in, .leftParen,
  .keyword .select, .identifier "f", .dot, .star, .identifier "g", .keyword .from,
  .identifier "h", .identifier "i", .keyword .join, .identifier "j", .keyword .on, .star,
  .rightParen, .endOfInput, .identifier "k"]

theorem names_of_parseTokens_assigning :
    namesOf (content assigning) = ["a", "b", "c", "d", "e", "f", "g", "h", "i", "j"] := by
  have primary {g : Inner} {u : List TokenKind} {e : Expr} (h : Primary g u e) :
      Disjunction g u e :=
    .single (.single (.predicate (.nullTest (.sum (.single (.single (.primary h)))))))
  have hvalue : (upTo true 3).expr _ _ := .single (.single (.predicate (.nullTest (.sum
    (.single (.single (.minus (.literal (.string "c")))))))))
  have hsource : Source true (upTo true 1) _ _ := .mk (.mk "h" (.bare "i"))
    (.step (.on .plain (by decide) (.mk "j" .absent) (primary .star)) nofun .done)
  have hquery : (upTo true 2).select _ _ := .mk .absent
    (.one (.expr (primary (.qualifiedStar "f")) (by decide) (.bare "g"))) (.present hsource)
    .absent .absent .absent .absent .absent .absent
  have hcondition : (upTo true 3).expr _ _ := .single (.single (.predicate (.membership
    (.sum (.single (.single (.primary (.qualified "d" "e"))))) .absent (.subquery hquery))))
  have hphrase : Phrase (upTo true 3) _ _ :=
    .update "a" (.one (.mk "b" hvalue)) (.present hcondition)
  have hparse : parseTokens assigning ⟨3, true⟩ = .ok _ :=
    parseTokens_eq_ok_iff_sole.mpr (.plain hphrase)
  exact names_of_parseTokens hparse nofun

end SqlSyntax
