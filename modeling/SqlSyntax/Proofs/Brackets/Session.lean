import SqlSyntax.Proofs.Acceptance
import SqlSyntax.Proofs.Brackets.Enclosed

/-!
# Redundant brackets

Brackets around what was read as an expression are not seen in the statement. They cost one
level of nesting at most.
-/
namespace SqlSyntax

open SqlSyntax.Parser Grammar

/-! ## Joins one after another -/

/-- A join that lacks its condition has no brackets. -/
theorem leftParen_notMem_of_bare {lax : Bool} {g : Inner} {u : List TokenKind}
    {j : JoinType × TableRef × Expr} (h : Join lax g true u j) : .leftParen ∉ u := by
  cases h with
  | bare _ hu _ hv =>
    obtain ⟨name, hv⟩ := hv
    rw [List.mem_append, not_or]
    constructor
    · cases hu with
      | plain | inner | cross => simp
      | left hu | right hu | full hu => cases hu <;> simp
    · cases hv <;> simp

namespace Encloses

variable {place stop : List TokenKind} {o : ParserOptions} {n : Nested} {g : Inner}

/-- A join with brackets in it has its condition, so no other one needs to follow it. -/
theorem joins (hn : n.Related (Encloses place stop) g) :
    Encloses place stop (.many fun kind => (join? kind).map (joinEntry o n))
      fun u js => ∀ left, Joins o.allowJoinWithoutOn g left u (left.joinLeft js) where
  toReads := Reads.joins ⟨hn.expr.toReads, hn.select.toReads⟩
  enclosed hr hh := by
    have hR := Encloses.compositional place stop
    have hreads : n.Reads False g := ⟨hn.expr.toReads, hn.select.toReads⟩
    refine enclosed_of_rounds (M := fun u js => ∀ left, Joins o.allowJoinWithoutOn g left u
      (left.joinLeft js)) (fun {kind _ _ j _ _ _} hk hp hmany hfirst => ?_)
      (fun {kind _ _ j _ js _} hk hp hmany => ?_) hr hh
    · obtain ⟨words, hwords, rfl⟩ := Option.map_eq_some_iff.mp hk
      have hjoin : Enclosed place stop (kind :: _) _ fun u =>
          ∃ bare, Join o.allowJoinWithoutOn g bare u j :=
        ((hR.joinEntry hn hwords).enclosed hp hfirst).append [kind] fun _ hj => hj
      refine hjoin.leftParen_mem.extend fun u hu => ?_
      obtain ⟨⟨bare, hj⟩, hparen⟩ := hu
      have hbare : bare ≠ true := by
        rintro rfl
        exact leftParen_notMem_of_bare hj hparen
      obtain ⟨v, rfl, hv⟩ := (Reads.joins hreads).sound hmany
      exact ⟨v, rfl, fun left => .step hj (fun h => absurd h hbare) (hv _)⟩
    · obtain ⟨words, hwords, rfl⟩ := Option.map_eq_some_iff.mp hk
      obtain ⟨u, bare, rfl, hj, -⟩ := Reads.joinEntry_sound hreads hwords hp
      refine hmany.leftParen_mem.append (kind :: u) fun v hv left => ?_
      exact .step hj (fun _ => List.ne_nil_of_mem hv.2) (hv.1 _)

/-! ## Levels of nesting -/

/-- Where the watched parser reads itself from `place` up to `stop`, all that it reads can have
brackets around it. -/
protected theorem watch {α : Type} {p : Parser α} {L M : Language α} (hp : Encloses place stop p L)
    (hreads : Reads False p M) (hM : ∀ u a, M u a → L (.leftParen :: (u ++ [.rightParen])) a) :
    Encloses place stop (watch place stop p) L where
  toReads := hp.toReads.of_run_eq rfl
  enclosed {kinds a rest} hr hh := by
    change p.run kinds = .ok (a, rest) at hr
    by_cases hhere : kinds = place ∧ rest = stop
    · obtain ⟨rfl, rfl⟩ := hhere
      obtain ⟨x, rfl, hx⟩ := hreads.sound hr
      exact ⟨[], x, [], rfl, rfl, rfl, hM x a hx⟩
    · have hinside : p.history kinds ≠ [] := by simpa [Parser.watch, hr, hhere] using hh
      exact hp.enclosed hr hinside

/-- Brackets around an expression lead one level further in. -/
theorem disjunction_brackets {u : List TokenKind} {e : Expr} (hu : g.expr u e) :
    Disjunction g (.leftParen :: (u ++ [.rightParen])) e :=
  .single (.single (.predicate (.nullTest (.sum (.single (.single
    (.primary (.brackets (.expr hu)))))))))

theorem watched (o : ParserOptions) (place stop : List TokenKind) (left : Nat) :
    (watched o place stop left).Related (Encloses place stop)
      (upTo o.allowJoinWithoutOn (left + 1)) := by
  have hR := Encloses.compositional place stop
  induction left with
  | zero => exact ⟨hR.fail nofun, hR.fail nofun⟩
  | succ left ih =>
    -- with its own number of levels the parser reads what the brackets go around
    have hreads : Reads False (Parser.watched o place stop (left + 1)).expr _ :=
      (Reads.nested_forget o (left + 1) 0).expr.of_run_eq
        (watched_alike o place stop (left + 1)).expr.run_eq.symm
    exact ⟨(hR.disjunction ih).watch (hreads.of_run_eq rfl) fun _ _ => disjunction_brackets,
      hR.selectBody (hR.tableRef (joins ih)) ih⟩

theorem soleStatement (o : ParserOptions) (place stop : List TokenKind) :
    Encloses place stop (soleStatementWith (Parser.watched o place stop o.maxDepth))
      (Sole o.allowJoinWithoutOn (o.maxDepth + 1)) := by
  have hR := Encloses.compositional place stop
  exact (hR.statementWith (watched o place stop o.maxDepth) id).bind fun _ _ hu => hR.ending hu

end Encloses

/-! ## Statements -/

/-- Where tokens are a statement and some of them were read as an expression in it, the same
statement is parsed with brackets around these, if one level of nesting more is allowed. -/
theorem parseTokens_brackets {o : ParserOptions} {before inside after : List Token}
    {left right : Token} {s : Statement}
    (h : parseTokens (before ++ (inside ++ after)) o = .ok s)
    (hexpr : ReadsExpr o ((before ++ (inside ++ after)).map Token.kind)
      ((inside ++ after).map Token.kind) (after.map Token.kind))
    (hleft : left.kind = .leftParen) (hright : right.kind = .rightParen) :
    parseTokens (before ++ left :: (inside ++ right :: after))
      ⟨o.maxDepth + 1, o.allowJoinWithoutOn⟩ = .ok s := by
  obtain ⟨rest, hrun⟩ := Session.exists_of_run_ok h
  change (soleStatement o).run ((before ++ (inside ++ after)).map Token.kind) = _ at hrun
  have hend : AtEnd rest := Reads.rest_of_soleStatement hrun
  rw [← run_soleStatementWith_watched o] at hrun
  obtain ⟨u, v, w, hkinds, hplace, hstop, hs⟩ :=
    (Encloses.soleStatement o _ _).enclosed hrun hexpr
  rw [List.map_append, hplace] at hkinds
  have hbefore : before.map Token.kind = u := List.append_cancel_right hkinds
  rw [List.map_append, hstop] at hplace
  have hinside : inside.map Token.kind = v := List.append_cancel_right hplace
  have hkinds' : (before ++ left :: (inside ++ right :: after)).map Token.kind =
      u ++ .leftParen :: (v ++ .rightParen :: w) ++ rest := by
    simp [hbefore, hinside, hstop, hleft, hright]
  have hmarker : .endOfInput ∉ u ++ .leftParen :: (v ++ .rightParen :: w) := by
    intro hmem
    cases (Yields.sole _ _ hs).1 _ hmem
  refine parseTokens_eq_ok_iff_sole.mpr ?_
  rw [content_of_atEnd hkinds' hmarker hend]
  exact hs

/-- `SELECT COUNT(a) FROM t WHERE b IN (`, up to a list of values. -/
def beforeList : List Token := tokensOf [.keyword .select, .keyword .count, .leftParen,
  .identifier "a", .rightParen, .keyword .from, .identifier "t", .keyword .where,
  .identifier "b", .keyword .in, .leftParen]

/-- `c < d`, which without brackets is no operand of a comparison. -/
def lessThan : List Token := tokensOf [.identifier "c", .operator .lessThan, .identifier "d"]

/-- `, 1)` -/
def endOfList : List Token := tokensOf [.comma, .literal (.integer 1), .rightParen]

theorem parseTokens_brackets_lessThan :
    ∃ s, parseTokens (beforeList ++ (lessThan ++ endOfList)) ⟨3, true⟩ = .ok s ∧
      ReadsExpr ⟨3, true⟩ ((beforeList ++ (lessThan ++ endOfList)).map Token.kind)
        ((lessThan ++ endOfList).map Token.kind) (endOfList.map Token.kind) ∧
      parseTokens (beforeList ++ ⟨.leftParen, .point 0⟩ ::
        (lessThan ++ ⟨.rightParen, .point 0⟩ :: endOfList)) ⟨4, true⟩ = .ok s := by
  have hparse : ∃ s, parseTokens (beforeList ++ (lessThan ++ endOfList)) ⟨3, true⟩ = .ok s :=
    ⟨_, by with_unfolding_all rfl⟩
  obtain ⟨s, hs⟩ := hparse
  have hnoted : (soleStatementWith (Parser.watched ⟨3, true⟩
      ((lessThan ++ endOfList).map Token.kind) (endOfList.map Token.kind) 3)).history
      ((beforeList ++ (lessThan ++ endOfList)).map Token.kind) = [.opened] := by
    with_unfolding_all rfl
  have hexpr : ReadsExpr ⟨3, true⟩ ((beforeList ++ (lessThan ++ endOfList)).map Token.kind)
      ((lessThan ++ endOfList).map Token.kind) (endOfList.map Token.kind) := by
    rw [ReadsExpr, hnoted]
    nofun
  have hleft : Token.kind ⟨.leftParen, .point 0⟩ = .leftParen := rfl
  have hright : Token.kind ⟨.rightParen, .point 0⟩ = .rightParen := rfl
  have hbrackets := parseTokens_brackets hs hexpr hleft hright
  exact ⟨s, hs, hexpr, hbrackets⟩

end SqlSyntax
