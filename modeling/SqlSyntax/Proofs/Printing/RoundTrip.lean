import SqlSyntax.Proofs.Acceptance
import SqlSyntax.Proofs.Content
import SqlSyntax.Proofs.Printing.Phrase

/-!
# Parsing undoes printing
-/
namespace SqlSyntax

open Grammar

theorem print_not_iterate (k : Nat) (name : String) :
    (Expr.not^[k] (.identifier name)).print =
      .ofKinds (List.replicate k (.keyword .not) ++ [.identifier name]) := by
  induction k with
  | zero => rfl
  | succ k ih =>
    have hlayer : ¬(Expr.not^[k] (.identifier name)).layer < 2 := by
      cases k with
      | zero => exact (by decide : ¬8 < 2)
      | succ k =>
        rw [Function.iterate_succ_apply']
        exact Nat.lt_irrefl 2
    rw [Function.iterate_succ_apply', Expr.print, Printed.within, if_neg hlayer, ih]
    rfl

theorem wellFormed_not_iterate (k : Nat) (name : String) :
    (Expr.not^[k] (.identifier name)).WellFormed := by
  induction k with
  | zero => exact .identifier name
  | succ k ih =>
    rw [Function.iterate_succ_apply']
    exact .not ih

/-- The statement is well formed, and read again as another one. -/
theorem parseTokens_print_longNots {k : Nat} (hk : 2147483648 ≤ k) (hlt : k < 4294967296) :
    let s : Statement := .delete "t" (some (Expr.not^[k] (.identifier "a")))
    s.WellFormed ∧ s.print.depth ≤ 1 ∧
      parseTokens (tokensOf s.print.kinds) ⟨1, false⟩ =
        .ok (.delete "t" (some (.identifier "a"))) ∧
      parseTokens (tokensOf s.print.kinds) ⟨1, false⟩ ≠ .ok s := by
  intro s
  have hprint : s.print = ⟨.keyword .delete :: .keyword .from :: .identifier "t" ::
      .keyword .where :: (List.replicate k (.keyword .not) ++ [.identifier "a"]), 1⟩ := by
    rw [Statement.print, printClause, print_not_iterate]
    rfl
  have hparse : parseTokens (tokensOf s.print.kinds) ⟨1, false⟩ =
      .ok (.delete "t" (some (.identifier "a"))) := by
    rw [hprint]
    refine parseTokens_delete ?_ (by simp)
    exact .single (.single (.uncounted (.nullTest (.sum (.single (.single
      (.primary (.identifier "a")))))) hk hlt))
  refine ⟨.delete "t" ?_, Nat.le_of_eq (congrArg Printed.depth hprint), hparse, ?_⟩
  · rintro _ ⟨⟩
    exact wellFormed_not_iterate k "a"
  · rw [hparse]
    intro h
    injection h with h
    injection h with _ h
    injection h with h
    exact Expr.not_iterate_ne (by omega) _ h.symm

end SqlSyntax
