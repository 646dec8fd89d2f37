import SqlSyntax.Proofs.Accepting.Query

/-!
# Statements are accepted
-/
namespace SqlSyntax

open SqlSyntax.Parser Grammar

namespace Accepts

variable {α : Type} {o : ParserOptions} {n : Nested} {g : Inner}

theorem inParens {p : Parser α} {L : Language α} (hp : Accepts p L (Past 1))
    {u rest : List TokenKind} {a : α} (hu : L u a) :
    (Parser.inParens p).run (.leftParen :: (u ++ .rightParen :: rest)) = .ok (a, rest) := by
  have hend : Past 1 (.rightParen :: rest) := past_of_lt (by decide) rest
  unfold Parser.inParens
  rw [run_expect_bind, run_bind_of_ok (hp hu hend), run_expect_bind, run_pure]

theorem name : Accepts identifier Name (Past 0) := by
  rintro _ name rest ⟨⟩ -
  rfl

/-! ## Insertions -/

theorem row (hn : n.Accepts g) (columns : Nat) :
    Accepts (Parser.row n columns)
      (fun u es => Row g u es ∧ (columns ≠ 0 → es.length = columns)) (Past 0) := by
  rintro _ es rest ⟨⟨hu⟩, hwidth⟩ -
  have hfit : columns = 0 ∨ es.length = columns := by
    by_cases hc : columns = 0
    · exact .inl hc
    · exact .inr (hwidth hc)
  simp [Parser.row, validate, inParens (list (expr hn 0)) hu, hfit]

theorem columns {u : List TokenKind} {names : List String} (hu : Columns u names)
    {rest : List TokenKind} (hrest : rest.head? ≠ some .leftParen) :
    (after .leftParen
      (do
        let columns ← Parser.commaList identifier
        expect .rightParen
        return columns)
      []).run (u ++ rest) = .ok (names, rest) := by
  cases hu with
  | absent => exact run_after_of_head?_ne _ _ hrest
  | @present u _ hu =>
    have hend : Past 1 (.rightParen :: rest) := past_of_lt (by decide) rest
    simp only [List.cons_append, List.append_assoc, List.nil_append]
    rw [run_after_self, run_bind_of_ok (list name hu hend), run_expect_bind, run_pure]

theorem insert (hn : n.Accepts g) (table : String) {u v rest : List TokenKind}
    {names : List String} {rows : List (List Expr)} (hu : Columns u names)
    (hv : CommaList (Row g) v rows)
    (hwidth : names ≠ [] → ∀ row ∈ rows, row.length = names.length) (hrest : Past 1 rest) :
    (Parser.insert n).run (.keyword .insert :: .keyword .into :: .identifier table ::
      (u ++ .keyword .values :: (v ++ rest))) = .ok (.insert table names rows, rest) := by
  have hfit : ∀ row ∈ rows, names.length ≠ 0 → row.length = names.length :=
    fun row hr hc => hwidth (fun h => hc (by simp [h])) row hr
  have hrows := commaList_and_iff.mpr ⟨hv, hfit⟩
  unfold Parser.insert
  rw [run_expect_bind, run_expect_bind, run_identifier_bind, run_bind_of_ok (columns hu (by simp)),
    run_expect_bind, run_bind_of_ok (list (row hn names.length) hrows hrest), run_pure]

/-! ## Updates and deletions -/

theorem assignment (hn : n.Accepts g) :
    Accepts (Parser.assignment n) (Assign g) (Past 0) := by
  rintro _ a rest ⟨column, hu⟩ hrest
  unfold Parser.assignment
  rw [List.cons_append, List.cons_append, run_identifier_bind, run_expect_bind,
    run_bind_of_ok (expr hn 0 hu hrest), run_pure]

theorem update (hn : n.Accepts g) (table : String) {u v rest : List TokenKind}
    {assignments : List Assignment} {condition : Option Expr}
    (hu : CommaList (Assign g) u assignments) (hv : Clause .where g.expr v condition)
    (hrest : Past 4 rest) :
    (Parser.update n).run (.keyword .update :: .identifier table :: .keyword .set ::
      (u ++ (v ++ rest))) = .ok (.update table assignments condition, rest) := by
  have hpast : Past 1 (v ++ rest) := hrest.append (by decide) (past_clause hv (by decide))
  unfold Parser.update
  rw [run_expect_bind, run_identifier_bind, run_expect_bind,
    run_bind_of_ok (list (assignment hn) hu hpast),
    run_bind_of_ok (conditionClause hn .where (Nat.le_refl 4) hv hrest), run_pure]

theorem delete (hn : n.Accepts g) (table : String) {u rest : List TokenKind}
    {condition : Option Expr} (hu : Clause .where g.expr u condition) (hrest : Past 4 rest) :
    (Parser.delete n).run (.keyword .delete :: .keyword .from :: .identifier table ::
      (u ++ rest)) = .ok (.delete table condition, rest) := by
  unfold Parser.delete
  rw [run_expect_bind, run_expect_bind, run_identifier_bind,
    run_bind_of_ok (conditionClause hn .where (Nat.le_refl 4) hu hrest), run_pure]

/-! ## Tables to create -/

theorem typeArguments {u : List TokenKind} {text : String} (hu : TypeArguments u text)
    {rest : List TokenKind} (hrest : rest.head? ≠ some .leftParen) :
    Parser.typeArguments.run (u ++ rest) = .ok (text, rest) := by
  cases hu with
  | absent => exact run_after_of_head?_ne _ _ hrest
  | one n =>
    have hnext : (TokenKind.rightParen :: rest).head? ≠ some .comma := by simp
    unfold Parser.typeArguments
    simp only [List.cons_append, List.nil_append]
    rw [run_after_self, run_bind_of_ok (run_integer _ _),
      run_bind_of_ok (run_after_of_head?_ne _ _ hnext), run_expect_bind, run_pure,
      String.append_empty]
  | two n m =>
    have hsecond : (after .comma (do return "," ++ toString (← integer).toInt) "").run
        (.comma :: .literal (.integer m) :: .rightParen :: rest) =
          .ok ("," ++ toString m.toInt, .rightParen :: rest) := rfl
    unfold Parser.typeArguments
    simp only [List.cons_append, List.nil_append]
    rw [run_after_self, run_bind_of_ok (run_integer _ _), run_bind_of_ok hsecond, run_expect_bind,
      run_pure, ← String.append_assoc]

theorem head?_constraints {u : List TokenKind} {texts : List String} (hu : Constraints u texts)
    {rest : List TokenKind} (hrest : Past 0 rest) :
    (u ++ rest).head? ≠ some .leftParen := by
  cases hu with
  | done => exact hrest.head?_ne (Nat.le_refl 0)
  | primaryKey | notNull => simp

theorem constraints : Accepts (Parser.many constraint?) Constraints (Past 0) := by
  intro u texts rest hu hrest
  induction hu with
  | done =>
    refine run_many_of_head? fun kind hk => ?_
    unfold constraint?
    split
    · exact absurd hk (hrest.head?_ne (Nat.le_refl 0))
    · exact absurd hk (hrest.head?_ne (Nat.le_refl 0))
    · rfl
  | @primaryKey primary key u texts hprimary hkey _ ih =>
    have hk : constraint? (.identifier primary) =
        some (do word "KEY"; return " PRIMARY KEY") := by
      simp only [constraint?, hprimary, if_pos]
    have hword : (word "KEY").run (.identifier key :: (u ++ rest)) = .ok ((), u ++ rest) := by
      simp only [word, run_choose_cons, hkey, if_pos, run_pure]
    simp only [List.cons_append]
    rw [run_many_of_some hk, bind_assoc, run_bind_of_ok hword, pure_bind, run_bind_of_ok ih,
      run_pure]
  | notNull _ ih =>
    simp only [List.cons_append]
    rw [run_many_of_some rfl, bind_assoc, run_expect_bind, pure_bind, run_bind_of_ok ih, run_pure]

theorem columnDef : Accepts Parser.columnDef Column (Past 0) := by
  rintro _ c rest ⟨name, typeName, hu, hv⟩ hrest
  unfold Parser.columnDef
  simp only [List.cons_append, List.append_assoc]
  rw [run_identifier_bind, run_bind, run_choose_cons]
  dsimp only
  rw [run_pure]
  dsimp only
  rw [run_bind_of_ok (typeArguments hu (head?_constraints hv hrest)),
    run_bind_of_ok (constraints hv hrest), run_pure]

theorem createTable (table : String) {u rest : List TokenKind} {columns : List ColumnDef}
    (hu : CommaList Column u columns) :
    Parser.createTable.run (.keyword .create :: .keyword .table :: .identifier table ::
      .leftParen :: (u ++ .rightParen :: rest)) = .ok (.createTable table columns, rest) := by
  unfold Parser.createTable
  rw [run_expect_bind, run_expect_bind, run_identifier_bind,
    run_bind_of_ok (inParens (list columnDef) hu), run_pure]

/-! ## Statements -/

theorem statement (o : ParserOptions) :
    Accepts (Parser.statement o) (Phrase (upTo o.allowJoinWithoutOn o.maxDepth)) (Past 9) := by
  intro u s rest hu hrest
  have hn := nested o o.maxDepth
  cases hu with
  | select hu =>
    obtain ⟨v, rfl⟩ := hn.begins_select hu
    exact run_bind_of_ok (hn.select hu hrest)
  | insert table hu hv hwidth =>
    simp only [List.cons_append, List.append_assoc]
    exact insert hn table hu hv hwidth (hrest.mono (by decide))
  | update table hu hv =>
    simp only [List.cons_append, List.append_assoc]
    exact update hn table hu hv (hrest.mono (by decide))
  | delete table hu => exact delete hn table hu (hrest.mono (by decide))
  | createTable table hu =>
    simp only [List.cons_append, List.append_assoc]
    exact createTable table hu

theorem soleStatement (o : ParserOptions) {u : List TokenKind} {s : Statement}
    (hu : Sole o.allowJoinWithoutOn o.maxDepth u s) :
    (Parser.soleStatement o).run u = .ok (s, []) := by
  unfold Parser.soleStatement Parser.soleStatementWith
  cases hu with
  | plain hu =>
    have h := statement o hu (past_nil 9)
    rw [List.append_nil] at h
    exact run_bind_of_ok h
  | semicolon hu =>
    have hpast : Past 9 [.semicolon] := past_of_lt (by decide) []
    exact run_bind_of_ok (statement o hu hpast)

end Accepts

end SqlSyntax
