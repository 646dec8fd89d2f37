import SqlSyntax.Proofs.Accepting.Statement
import SqlSyntax.Proofs.Content
import SqlSyntax.Proofs.Grammar.Rows
import SqlSyntax.Proofs.Reading.Statement

/-!
# The parser accepts exactly its grammar

What is read is a phrase of the grammar with the value that is given, and each phrase is
read as a whole.
-/
namespace SqlSyntax

open SqlSyntax.Parser Grammar

/-- Of the kinds before the end marker nothing is left. -/
theorem rest_of_content {o : ParserOptions} {tokens : List Token} {s : Statement}
    {rest : List TokenKind} (h : (soleStatement o).run (content tokens) = .ok (s, rest)) :
    rest = [] := by
  cases rest with
  | nil => rfl
  | cons kind rest =>
    obtain rfl := Reads.rest_of_soleStatement h kind rfl
    exact absurd ((suffix_of_run h).mem List.mem_cons_self) (endOfInput_notMem_content tokens)

theorem soleStatement_eq_ok_iff {o : ParserOptions} {tokens : List Token} {s : Statement} :
    (∃ rest, (soleStatement o).run (content tokens) = .ok (s, rest)) ↔
      Sole o.allowJoinWithoutOn o.maxDepth (content tokens) s := by
  constructor
  · rintro ⟨rest, h⟩
    obtain ⟨u, hu, hs⟩ := (Reads.soleStatement o).sound h
    rw [hu, rest_of_content h, List.append_nil]
    exact hs
  · intro h
    exact ⟨[], Accepts.soleStatement o h⟩

theorem Session.run_eq_ok_iff {session : Session} {o : ParserOptions} {s : Statement} :
    (session.run (soleStatement o)).1 = .ok s ↔
      ∃ rest, (soleStatement o).run (content (session.tokens.drop session.cursor)) =
        .ok (s, rest) := by
  have hstops := soleStatement_stopsAtEnd o
  cases h : (soleStatement o).run (content (session.tokens.drop session.cursor)) with
  | ok result =>
    obtain ⟨b, rest⟩ := result
    simp [Session.run_content_of_ok hstops h]
  | error failure => simp [Session.run_content_of_error hstops h]

theorem parseTokens_eq_ok_iff_sole {tokens : List Token} {o : ParserOptions} {s : Statement} :
    parseTokens tokens o = .ok s ↔ Sole o.allowJoinWithoutOn o.maxDepth (content tokens) s :=
  Session.run_eq_ok_iff.trans soleStatement_eq_ok_iff

theorem parseTokens_delete {table : String} {u : List TokenKind} {e : Expr} {o : ParserOptions}
    (hu : (upTo o.allowJoinWithoutOn o.maxDepth).expr u e) (hend : .endOfInput ∉ u) :
    parseTokens (tokensOf (.keyword .delete :: .keyword .from :: .identifier table ::
      .keyword .where :: u)) o = .ok (.delete table (some e)) := by
  have hcontent := content_of_atEnd (v := []) ((map_kind_tokensOf (.keyword .delete ::
    .keyword .from :: .identifier table :: .keyword .where :: u)).trans (List.append_nil _).symm)
    (by simpa using hend) nofun
  rw [parseTokens_eq_ok_iff_sole, hcontent]
  exact .plain (.delete table (.present hu))

theorem parseTokens_longMinuses {k : Nat} (hk : 2147483648 ≤ k) (hlt : k < 4294967296) :
    parseTokens (tokensOf (.keyword .delete :: .keyword .from :: .identifier "t" ::
        .keyword .where :: (List.replicate k (.operator .minus) ++ [.identifier "a"])))
      ⟨1, false⟩ = .ok (.delete "t" (some (.identifier "a"))) := by
  refine parseTokens_delete ?_ (by simp)
  exact .single (.single (.predicate (.nullTest (.sum (.single (.single
    (.uncounted (.identifier "a") hk hlt)))))))

end SqlSyntax
