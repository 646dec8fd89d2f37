import SqlSyntax.Proofs.Accepting.Expr

/-!
# Queries are accepted

The parts of a query stand in a fixed order. A part is read as a whole if the token after
it belongs to a later part, or to what stands around the query.
-/
namespace SqlSyntax

open SqlSyntax.Parser Grammar

theorem past_clause {L : Language α} {keyword : Keyword} {u : List TokenKind} {a : Option α}
    (h : Clause keyword L u a) {stage : Nat} (hs : stage < (TokenKind.keyword keyword).stage) :
    Past stage u := by
  cases h with
  | absent => exact past_nil stage
  | present => simpa using hs

theorem past_byClause {L : Language α} {keyword : Keyword} {u : List TokenKind} {as : List α}
    (h : ByClause keyword L u as) {stage : Nat}
    (hs : stage < (TokenKind.keyword keyword).stage) : Past stage u := by
  cases h with
  | absent => exact past_nil stage
  | present => simpa using hs

namespace Accepts

variable {α : Type} {o : ParserOptions} {n : Nested} {g : Inner}

theorem mono {p : Parser α} {L : Language α} {Before Before' : List TokenKind → Prop}
    (hp : Accepts p L Before) (h : ∀ rest, Before' rest → Before rest) :
    Accepts p L Before' :=
  fun hu hrest => hp hu (h _ hrest)

theorem expr (hn : n.Accepts g) (stage : Nat) : Accepts n.expr g.expr (Past stage) :=
  mono hn.expr fun _ => Past.ends

theorem list {p : Parser α} {L : Language α} (hp : Accepts p L (Past 0)) :
    Accepts (Parser.commaList p) (CommaList L) (Past 1) :=
  mono (commaList hp (past_of_lt (by decide))) fun _ h =>
    ⟨h.mono (Nat.zero_le 1), h.head?_ne (Nat.le_refl 1)⟩

/-! ## Tables -/

/-- The next token is taken for no label. -/
def Unlabelled (rest : List TokenKind) : Prop :=
  ∀ kind ∈ rest.head?, kind ≠ .keyword .as ∧ ∀ name, kind ≠ .identifier name

theorem unlabelled_of_past {stage : Nat} {rest : List TokenKind} (h : Past stage rest) :
    Unlabelled rest := by
  intro kind hk
  constructor
  · rintro rfl
    exact Nat.not_lt_zero _ (h _ hk)
  · rintro name rfl
    exact Nat.not_lt_zero _ (h _ hk)

theorem label : Accepts Parser.label Label Unlabelled := by
  intro u label rest hu hrest
  cases hu with
  | absent =>
    refine run_choose_of_none _ fun kind hk => ?_
    obtain ⟨has, hname⟩ := hrest kind hk
    split
    · exact absurd rfl has
    · exact absurd rfl (hname _)
    · rfl
  | bare name => rfl
  | marked name => rfl

theorem table : Accepts Parser.table Table Unlabelled := by
  intro u t rest hu hrest
  cases hu with
  | mk name hu =>
    unfold Parser.table
    rw [List.cons_append, run_identifier_bind, run_bind_of_ok (label hu hrest), run_pure]

theorem outerJoin (type : JoinType) {u : List TokenKind} {outer : Bool}
    (hu : Flag (.keyword .outer) u outer) (rest : List TokenKind) :
    (Parser.outerJoin type).run (u ++ .keyword .join :: rest) = .ok (type, rest) := by
  unfold Parser.outerJoin
  rw [run_bind_of_ok (skip _ hu (by simp)), run_expect_bind, run_pure]

theorem joinWords {u : List TokenKind} {type : JoinType} (h : JoinWords u type) :
    ∃ kind v words, u = kind :: v ∧ join? kind = some words ∧
      ∀ rest, words.run (v ++ rest) = .ok (type, rest) := by
  cases h with
  | plain => exact ⟨_, _, _, rfl, rfl, fun _ => rfl⟩
  | inner => exact ⟨_, _, _, rfl, rfl, fun _ => rfl⟩
  | left hu => exact ⟨_, _, _, rfl, rfl, fun rest => by simpa using outerJoin .left hu rest⟩
  | right hu => exact ⟨_, _, _, rfl, rfl, fun rest => by simpa using outerJoin .right hu rest⟩
  | full hu => exact ⟨_, _, _, rfl, rfl, fun rest => by simpa using outerJoin .full hu rest⟩
  | cross => exact ⟨_, _, _, rfl, rfl, fun _ => rfl⟩

/-! ## Joins -/

/-- A condition is left out only before another join. -/
def BeforeJoin (rest : List TokenKind) : Prop :=
  ∃ kind v, rest = kind :: v ∧ startsJoin kind = true

theorem run_joinCondition_on (hn : n.Accepts g) {type : JoinType} (ht : type ≠ .cross)
    {u rest : List TokenKind} {c : Expr} (hu : g.expr u c) (hrest : Past 2 rest) :
    (joinCondition o n type).run (.keyword .on :: (u ++ rest)) = .ok (c, rest) := by
  unfold joinCondition
  split
  · exact absurd rfl ht
  · exact expr hn 2 hu hrest

theorem run_joinCondition_bare {type : JoinType} (ht : type ≠ .cross)
    (hlax : o.allowJoinWithoutOn = true) {rest : List TokenKind} (hrest : BeforeJoin rest) :
    (joinCondition o n type).run rest = .ok (.boolean true, rest) := by
  obtain ⟨kind, v, rfl, hk⟩ := hrest
  have hon : kind ≠ .keyword .on := by
    rintro rfl
    cases hk
  unfold joinCondition
  split
  · exact absurd rfl ht
  · rw [run_choose_of_none _ (by simp [hon]), run_peek]
    simp [hlax, hk]

theorem joinEntry (hn : n.Accepts g) {bare : Bool} {u rest : List TokenKind}
    {j : JoinType × TableRef × Expr} (hu : Join o.allowJoinWithoutOn g bare u j)
    (hrest : Past 2 rest) (hbare : bare = true → BeforeJoin rest) :
    ∃ kind v words, u = kind :: v ∧ join? kind = some words ∧
      (Parser.joinEntry o n words).run (v ++ rest) = .ok (j, rest) := by
  have hnext : Unlabelled rest := unlabelled_of_past hrest
  unfold Parser.joinEntry
  cases hu with
  | cross hu hv =>
    obtain ⟨kind, w, words, rfl, hk, hw⟩ := joinWords hu
    refine ⟨kind, w ++ _, words, rfl, hk, ?_⟩
    rw [List.append_assoc, run_bind_of_ok (hw _), run_bind_of_ok (table hv hnext)]
    rfl
  | on hu ht hv hc =>
    obtain ⟨kind, w, words, rfl, hk, hw⟩ := joinWords hu
    refine ⟨kind, w ++ _, words, rfl, hk, ?_⟩
    simp only [List.append_assoc, List.cons_append]
    rw [run_bind_of_ok (hw _), run_bind_of_ok (table hv (by simp [Unlabelled])),
      run_bind_of_ok (run_joinCondition_on hn ht hc hrest), run_pure]
  | bare hlax hu ht hv =>
    obtain ⟨kind, w, words, rfl, hk, hw⟩ := joinWords hu
    refine ⟨kind, w ++ _, words, rfl, hk, ?_⟩
    rw [List.append_assoc, run_bind_of_ok (hw _), run_bind_of_ok (table hv hnext),
      run_bind_of_ok (run_joinCondition_bare ht hlax (hbare rfl)), run_pure]

theorem stage_of_startsJoin {kind : TokenKind} (h : startsJoin kind = true) :
    kind.stage = 3 := by
  unfold startsJoin join? at h
  split at h <;> first | rfl | cases h

theorem beforeJoin_of_join {lax bare : Bool} {u : List TokenKind}
    {j : JoinType × TableRef × Expr} (h : Join lax g bare u j) : BeforeJoin u := by
  cases h with
  | cross hu | on hu | bare _ hu =>
    obtain ⟨kind, v, words, rfl, hk, -⟩ := joinWords hu
    exact ⟨kind, _, rfl, by simp [startsJoin, hk]⟩

theorem BeforeJoin.append {u : List TokenKind} (h : BeforeJoin u) (v : List TokenKind) :
    BeforeJoin (u ++ v) := by
  obtain ⟨kind, w, rfl, hk⟩ := h
  exact ⟨kind, w ++ v, rfl, hk⟩

theorem BeforeJoin.past {u : List TokenKind} (h : BeforeJoin u) : Past 2 u := by
  obtain ⟨kind, v, rfl, hk⟩ := h
  simp [stage_of_startsJoin hk]

theorem beforeJoin_of_joins {lax : Bool} {left joined : TableRef} {u : List TokenKind}
    (h : Joins lax g left u joined) (hne : u ≠ []) : BeforeJoin u := by
  cases h with
  | done => exact absurd rfl hne
  | step hu => exact (beforeJoin_of_join hu).append _

theorem past_joins {lax : Bool} {left joined : TableRef} {u rest : List TokenKind}
    (h : Joins lax g left u joined) (hrest : Past 3 rest) : Past 2 (u ++ rest) := by
  refine hrest.append (by decide) ?_
  cases h with
  | done => exact past_nil 2
  | step hu => exact ((beforeJoin_of_join hu).append _).past

/-- Whether a join may be bare is settled by the joins after it. -/
theorem joins (hn : n.Accepts g) {left joined : TableRef} {u rest : List TokenKind}
    (hu : Joins o.allowJoinWithoutOn g left u joined) (hrest : Past 3 rest) :
    ∃ js, joined = left.joinLeft js ∧
      (Parser.many fun kind => (join? kind).map (Parser.joinEntry o n)).run (u ++ rest) =
        .ok (js, rest) := by
  induction hu with
  | done =>
    refine ⟨[], rfl, run_many_of_head? fun kind hk => ?_⟩
    cases hj : join? kind with
    | none => rfl
    | some words =>
      have h := hrest kind hk
      rw [stage_of_startsJoin (by simp [startsJoin, hj])] at h
      exact absurd h (Nat.lt_irrefl 3)
  | @step _ _ type right condition v _ _ hu hbare hv ih =>
    obtain ⟨js, rfl, hjs⟩ := ih
    obtain ⟨kind, w, words, rfl, hk, hw⟩ := joinEntry hn hu (past_joins hv hrest) fun hb =>
      (beforeJoin_of_joins hv (hbare hb)).append rest
    refine ⟨(type, right, condition) :: js, rfl, ?_⟩
    rw [List.append_assoc, List.cons_append, run_many_of_some (by rw [hk, Option.map_some]),
      run_bind_of_ok hw, run_bind_of_ok hjs, run_pure]

theorem tableRef (hn : n.Accepts g) :
    Accepts (Parser.tableRef o n) (Source o.allowJoinWithoutOn g) (Past 3) := by
  intro u t rest hu hrest
  cases hu with
  | mk hu hv =>
    obtain ⟨js, rfl, hjs⟩ := joins hn hv hrest
    have hnext : Unlabelled (_ ++ rest) := unlabelled_of_past (past_joins hv hrest)
    unfold Parser.tableRef
    rw [List.append_assoc, run_bind_of_ok (table hu hnext), run_bind_of_ok hjs, run_pure]

/-! ## Clauses -/

theorem item (hn : n.Accepts g) : Accepts (selectItem n) (Item g) (Past 0) := by
  intro w i rest hw hrest
  unfold selectItem
  cases hw with
  | star => rfl
  | @expr u e v label hu hstar hv =>
    have hends : Ends 1 (v ++ rest) := by
      cases hv with
      | absent => exact hrest.ends
      | bare name => exact ends_of_lt Nat.one_pos rest
      | marked name => exact ends_of_lt Nat.one_pos _
    have h := hn.expr hu hends
    obtain ⟨kind, u, rfl, -⟩ := hn.begins_expr hu
    rw [List.append_assoc, run_starOr_of_head?_ne _ _ (by simpa using hstar), run_bind_of_ok h,
      run_bind_of_ok (Accepts.label hv (unlabelled_of_past hrest)), run_pure]

theorem orderEntry (hn : n.Accepts g) :
    Accepts (Parser.orderEntry n) (OrderEntry g) (Past 0) := by
  intro w entry rest hw hrest
  unfold Parser.orderEntry
  cases hw with
  | mk hu hv =>
    rw [List.append_assoc]
    cases hv with
    | absent =>
      rw [List.nil_append, run_bind_of_ok (expr hn 0 hu hrest), run_bind, run_choose_of_none]
      · rfl
      · intro kind hk
        split
        · exact absurd hk (hrest.head?_ne (Nat.le_refl 0))
        · exact absurd hk (hrest.head?_ne (Nat.le_refl 0))
        · rfl
    | asc | desc =>
      exact run_bind_of_ok (hn.expr hu (ends_of_lt Nat.one_pos _))

theorem rowCount (keyword : Keyword) :
    Accepts (Parser.rowCount keyword) RowCount fun _ => True := by
  intro u count rest hu _
  cases hu with
  | mk n hn => simp [Parser.rowCount, run_choose_cons, hn]

theorem clause {p : Parser α} {L : Language α} (keyword : Keyword) {stage : Nat}
    (hp : Accepts p L (Past stage)) (hs : (TokenKind.keyword keyword).stage ≤ stage) :
    Accepts (after (.keyword keyword) (return some (← p)) none) (Clause keyword L)
      (Past stage) := by
  intro u a rest hu hrest
  cases hu with
  | absent => exact run_after_of_head?_ne _ _ (hrest.head?_ne hs)
  | present hu =>
    rw [List.cons_append, run_after_self, run_bind_of_ok (hp hu hrest), run_pure]

theorem sourceClause (hn : n.Accepts g) :
    Accepts (Parser.sourceClause o n) (Clause .from (Source o.allowJoinWithoutOn g)) (Past 3) :=
  clause .from (tableRef hn) (by decide)

theorem conditionClause (hn : n.Accepts g) (keyword : Keyword) {stage : Nat}
    (hs : (TokenKind.keyword keyword).stage ≤ stage) :
    Accepts (Parser.conditionClause n keyword) (Clause keyword g.expr) (Past stage) :=
  clause keyword (expr hn stage) hs

theorem rowCountClause (keyword : Keyword) {stage : Nat}
    (hs : (TokenKind.keyword keyword).stage ≤ stage) :
    Accepts (Parser.rowCountClause keyword) (Clause keyword RowCount) (Past stage) :=
  clause keyword (mono (rowCount keyword) fun _ _ => trivial) hs

theorem byClause {p : Parser α} {L : Language α} (keyword : Keyword) {stage : Nat}
    (hp : Accepts p L (Past 0)) (hs : (TokenKind.keyword keyword).stage ≤ stage)
    (hpos : 0 < stage) :
    Accepts (Parser.byClause keyword p) (ByClause keyword L) (Past stage) := by
  intro u as rest hu hrest
  unfold Parser.byClause
  cases hu with
  | absent => exact run_after_of_head?_ne _ _ (hrest.head?_ne hs)
  | present hu =>
    rw [List.cons_append, List.cons_append, run_after_self, run_expect_bind,
      list hp hu (hrest.mono hpos)]

theorem distinctClause {u rest : List TokenKind} {distinct : Bool}
    (hu : DistinctClause u distinct) (hd : rest.head? ≠ some (.keyword .distinct))
    (ha : rest.head? ≠ some (.keyword .all)) :
    Parser.distinctClause.run (u ++ rest) = .ok (distinct, rest) := by
  cases hu with
  | absent =>
    refine run_choose_of_none _ fun kind hk => ?_
    split
    · exact absurd hk hd
    · exact absurd hk ha
    · rfl
  | all => rfl
  | distinct => rfl

theorem begins_items (hn : n.Accepts g) {u : List TokenKind} {items : List SelectItem}
    (h : CommaList (Item g) u items) : Begins TokenKind.startsExpr u := by
  obtain ⟨v, i, w, is, rfl, rfl, hv, -⟩ := commaList_iff.mp h
  refine Begins.append ?_ w
  cases hv with
  | star => exact ⟨_, _, rfl, rfl⟩
  | expr hu => exact (hn.begins_expr hu).append _

theorem selectBody (hn : n.Accepts g) :
    Accepts (Parser.selectBody o n) (Query o.allowJoinWithoutOn g) (Past 9) := by
  intro w q rest hw hrest
  cases hw with
  | mk h₁ h₂ h₃ h₄ h₅ h₆ h₇ h₈ h₉ =>
    -- What follows each part, from the last part to the first.
    have p₉ : Past 8 (_ ++ rest) := hrest.append (by decide) (past_clause h₉ (by decide))
    have p₈ : Past 7 (_ ++ _) := p₉.append (by decide) (past_clause h₈ (by decide))
    have p₇ : Past 6 (_ ++ _) := p₈.append (by decide) (past_byClause h₇ (by decide))
    have p₆ : Past 5 (_ ++ _) := p₇.append (by decide) (past_clause h₆ (by decide))
    have p₅ : Past 4 (_ ++ _) := p₆.append (by decide) (past_byClause h₅ (by decide))
    have p₄ : Past 3 (_ ++ _) := p₅.append (by decide) (past_clause h₄ (by decide))
    have p₃ : Past 1 (_ ++ _) := p₄.append (by decide) (past_clause h₃ (by decide))
    have hbegins := begins_items hn h₂
    unfold Parser.selectBody
    simp only [List.cons_append, List.append_assoc]
    rw [run_expect_bind,
      run_bind_of_ok (distinctClause h₁ ((hbegins.append _).head?_ne rfl)
        ((hbegins.append _).head?_ne rfl)),
      run_bind_of_ok (list (item hn) h₂ p₃),
      run_bind_of_ok (sourceClause hn h₃ p₄),
      run_bind_of_ok (conditionClause hn .where (by decide) h₄ p₅),
      run_bind_of_ok (byClause .group (expr hn 0) (by decide) (by decide) h₅ p₆),
      run_bind_of_ok (conditionClause hn .having (by decide) h₆ p₇),
      run_bind_of_ok (byClause .order (orderEntry hn) (by decide) (by decide) h₇ p₈),
      run_bind_of_ok (rowCountClause .limit (by decide) h₈ p₉),
      run_bind_of_ok (rowCountClause .offset (by decide) h₉ hrest), run_pure]

theorem nested (o : ParserOptions) (depth : Nat) :
    (Parser.nested o depth).Accepts (upTo o.allowJoinWithoutOn depth) := by
  induction depth with
  | zero => exact ⟨nofun, nofun, nofun, nofun⟩
  | succ depth ih =>
    refine ⟨disjunction ih, selectBody ih, begins_of_disjunction, ?_⟩
    rintro _ _ ⟨⟩
    exact ⟨_, rfl⟩

end Accepts

end SqlSyntax
