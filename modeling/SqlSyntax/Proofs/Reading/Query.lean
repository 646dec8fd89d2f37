import SqlSyntax.Proofs.Reading.Expr

/-!
# Reading queries
-/
namespace SqlSyntax

open Grammar

namespace Compositional

variable {live : Prop} {R : ∀ {α : Type}, Parser α → Language α → Prop}
  (hR : Compositional live R) {o : ParserOptions} {n : Parser.Nested} {g : Inner}
include hR

/-! ## Tables -/

theorem label : R Parser.label Label := by
  apply hR.choose
  · intro kind p hp
    split at hp
    · cases hp
      refine hR.named fun name => ?_
      exact hR.pure (.marked name)
    · cases hp
      exact hR.pure (.bare _)
    · cases hp
  · exact hR.pure .absent

theorem table : R Parser.table Table := by
  refine hR.named fun name => hR.bind hR.label fun u label hu => hR.pure ?_
  simpa [residual] using Table.mk name hu

theorem outerJoin (k : Keyword) (type : JoinType)
    (h : ∀ u outer, Flag (.keyword .outer) u outer →
      JoinWords (.keyword k :: (u ++ [.keyword .join])) type) :
    R (Parser.outerJoin type) (residual JoinWords [.keyword k]) := by
  refine hR.bind (hR.skip (.keyword .outer)) fun u outer hu => ?_
  apply hR.token
  exact hR.pure (by simpa [residual] using h u outer hu)

theorem join? {kind : TokenKind} {words : Parser JoinType}
    (h : Parser.join? kind = some words) : R words (residual JoinWords [kind]) := by
  unfold Parser.join? at h
  split at h
  · cases h
    exact hR.pure .plain
  · cases h
    apply hR.token
    exact hR.pure .inner
  · cases h
    exact hR.outerJoin .left .left fun _ _ => .left
  · cases h
    exact hR.outerJoin .right .right fun _ _ => .right
  · cases h
    exact hR.outerJoin .full .full fun _ _ => .full
  · cases h
    apply hR.token
    exact hR.pure .cross
  · cases h

/-! ## Joins

Whether a bare join is right shows only at the token after it. The languages here do not
see that token, so a join is read as bare or not, and what follows a bare one is settled
for the joins as a whole. -/

theorem joinEntry (hn : n.Related R g) {kind : TokenKind} {words : Parser JoinType}
    (h : Parser.join? kind = some words) :
    R (Parser.joinEntry o n words)
      (residual (fun u j => ∃ bare, Join o.allowJoinWithoutOn g bare u j) [kind]) := by
  refine hR.bind (hR.join? h) fun u type hu => hR.bind hR.table fun v right hv => ?_
  refine hR.bind (L := fun w c => ∃ bare,
    Join o.allowJoinWithoutOn g bare (kind :: (u ++ (v ++ w))) (type, right, c)) ?_ ?_
  · unfold Parser.joinCondition
    split
    · exact hR.pure ⟨false, by simpa using Join.cross hu hv⟩
    · rename_i hcross
      have hproper : ∀ w c, g.expr w c → ∃ bare, Join o.allowJoinWithoutOn g bare
          (kind :: (u ++ (v ++ .keyword .on :: w))) (type, right, c) :=
        fun w c hw => ⟨false, by simpa using Join.on hu hcross hv hw⟩
      apply hR.choose
      · intro k p hp
        obtain ⟨rfl, rfl⟩ := Option.ite_some_none_eq_some.mp hp
        exact hR.mono hn.expr hproper
      · refine hR.peek fun next => ?_
        split
        · rename_i hlax
          rw [Bool.and_eq_true] at hlax
          exact hR.pure ⟨true, by simpa using Join.bare hlax.1 hu hcross hv⟩
        · refine hR.fail fun hl => ?_
          obtain ⟨w, c, hw⟩ := hR.productive hn.expr hl
          exact ⟨_, c, hproper w c hw⟩
  · intro w c hw
    exact hR.pure (by simpa [residual] using hw)

/-- With the joins after its first table a table is what a query reads from. -/
theorem tableRef
    (hj : R (.many fun kind => (Parser.join? kind).map (Parser.joinEntry o n))
      fun u js => ∀ left, Joins o.allowJoinWithoutOn g left u (left.joinLeft js)) :
    R (Parser.tableRef o n) (Source o.allowJoinWithoutOn g) :=
  hR.bind hR.table fun _ first hu => hR.bind hj fun _ _ hv => hR.pure (by
    simpa [residual] using Source.mk hu (hv first))

/-! ## Queries -/

theorem selectItem (hn : n.Related R g) : R (Parser.selectItem n) (Item g) := by
  refine hR.starOr (L := fun w i => ∃ u v e label,
    w = u ++ v ∧ g.expr u e ∧ Label v label ∧ i = .projected e label) .star ?_ ?_
  · refine hR.bind hn.expr fun u e hu => hR.bind hR.label fun v label hv => hR.pure ?_
    exact ⟨u, v, e, label, by simp, hu, hv, rfl⟩
  · rintro _ _ ⟨u, v, e, label, rfl, hu, hv, rfl⟩ hstar
    refine .expr hu (fun h => hstar ?_) hv
    simp [h]

theorem orderEntry (hn : n.Related R g) :
    R (Parser.orderEntry n) (OrderEntry g) := by
  refine hR.bind hn.expr fun u e hu => hR.bind (L := Direction) (hR.choose ?_ ?_) ?_
  · intro kind p hp
    split at hp
    · cases hp
      exact hR.pure .desc
    · cases hp
      exact hR.pure .asc
    · cases hp
  · exact hR.pure .absent
  · intro v direction hv
    exact hR.pure (by simpa [residual] using OrderEntry.mk hu hv)

theorem rowCount (clause : Keyword) : R (Parser.rowCount clause) RowCount := by
  apply hR.choose
  · intro kind p hp
    split at hp
    · obtain ⟨hn, rfl⟩ := Option.ite_some_none_eq_some.mp hp
      exact hR.pure (.mk _ hn)
    · cases hp
  · exact hR.fail fun _ => ⟨_, _, .mk 0 (by decide)⟩

theorem clause {p : Parser α} {L : Language α} (keyword : Keyword) (hp : R p L) :
    R (.after (.keyword keyword) (return some (← p)) none) (Clause keyword L) :=
  hR.after (hR.bind hp fun _ _ hu => hR.pure (by simpa [residual] using Clause.present hu))
    .absent

theorem byClause {p : Parser α} {L : Language α} (keyword : Keyword) (hp : R p L) :
    R (Parser.byClause keyword p) (ByClause keyword L) :=
  hR.after (hR.token (hR.mono (hR.commaList hp) fun _ _ => .present)) .absent

theorem distinctClause : R Parser.distinctClause DistinctClause := by
  apply hR.choose
  · intro kind p hp
    split at hp
    · cases hp
      exact hR.pure .distinct
    · cases hp
      exact hR.pure .all
    · cases hp
  · exact hR.pure .absent

theorem selectBody (ht : R (Parser.tableRef o n) (Source o.allowJoinWithoutOn g))
    (hn : n.Related R g) : R (Parser.selectBody o n) (Query o.allowJoinWithoutOn g) := by
  apply hR.token
  refine hR.bind hR.distinctClause fun _ _ h₁ => ?_
  refine hR.bind (hR.commaList (hR.selectItem hn)) fun _ _ h₂ => ?_
  refine hR.bind (hR.clause .from ht) fun _ _ h₃ => ?_
  refine hR.bind (hR.clause .where hn.expr) fun _ _ h₄ => ?_
  refine hR.bind (hR.byClause .group hn.expr) fun _ _ h₅ => ?_
  refine hR.bind (hR.clause .having hn.expr) fun _ _ h₆ => ?_
  refine hR.bind (hR.byClause .order (hR.orderEntry hn)) fun _ _ h₇ => ?_
  refine hR.bind (hR.clause .limit (hR.rowCount .limit)) fun _ _ h₈ => ?_
  refine hR.bind (hR.clause .offset (hR.rowCount .offset)) fun _ _ h₉ => ?_
  exact hR.pure (by simpa [residual] using Query.mk h₁ h₂ h₃ h₄ h₅ h₆ h₇ h₈ h₉)

end Compositional

/-! ## Joins one after another -/

namespace Reads

variable {live : Prop} {o : ParserOptions} {n : Parser.Nested} {g : Inner}

/-- The condition is left out only where the next token begins another join. -/
theorem joinCondition_eq_ok {kinds rest : List TokenKind} {type : JoinType} {c : Expr}
    (h : (Parser.joinCondition o n type).run kinds = .ok (c, rest)) :
    (type = .cross ∧ c = .boolean true ∧ rest = kinds) ∨
    (type ≠ .cross ∧ ∃ w, kinds = .keyword .on :: w ∧ n.expr.run w = .ok (c, rest)) ∨
    (type ≠ .cross ∧ o.allowJoinWithoutOn = true ∧ c = .boolean true ∧ rest = kinds ∧
      ∃ kind w, kinds = kind :: w ∧ Parser.startsJoin kind = true) := by
  unfold Parser.joinCondition at h
  split at h
  · cases h
    exact .inl ⟨rfl, rfl, rfl⟩
  · rename_i hcross
    refine .inr ?_
    cases kinds with
    | nil => simp at h
    | cons kind w =>
      rw [Parser.run_choose_cons] at h
      split at h
      · rename_i hk
        obtain ⟨rfl, rfl⟩ := Option.ite_some_none_eq_some.mp hk
        exact .inl ⟨hcross, w, rfl, h⟩
      · rw [Parser.run_peek, List.head?_cons, Option.any_some] at h
        split at h
        · rename_i hlax
          rw [Bool.and_eq_true] at hlax
          cases h
          exact .inr ⟨hcross, hlax.1, rfl, rfl, kind, w, rfl, hlax.2⟩
        · cases h

theorem joinEntry_sound (hn : n.Reads live g) {kind : TokenKind} {words : Parser JoinType}
    (h : Parser.join? kind = some words) {kinds rest : List TokenKind}
    {j : JoinType × TableRef × Expr}
    (hj : (Parser.joinEntry o n words).run kinds = .ok (j, rest)) :
    ∃ u bare, kinds = u ++ rest ∧ Join o.allowJoinWithoutOn g bare (kind :: u) j ∧
      (bare = true → ∃ next w, rest = next :: w ∧ Parser.startsJoin next = true) := by
  obtain ⟨type, k₁, hw, hj⟩ := Parser.run_bind_eq_ok_iff.mp hj
  obtain ⟨right, k₂, ht, hj⟩ := Parser.run_bind_eq_ok_iff.mp hj
  obtain ⟨c, k₃, hc, hj⟩ := Parser.run_bind_eq_ok_iff.mp hj
  cases hj
  have hwords : Reads live words _ := (compositional live).join? h
  have htable : Reads live Parser.table Table := (compositional live).table
  obtain ⟨u, rfl, hu⟩ := hwords.sound hw
  obtain ⟨v, rfl, hv⟩ := htable.sound ht
  obtain ⟨rfl, rfl, rfl⟩ | ⟨hcross, w, rfl, he⟩ | ⟨hcross, hlax, rfl, rfl, hnext⟩ :=
    joinCondition_eq_ok hc
  · exact ⟨u ++ v, false, by simp, .cross hu hv, nofun⟩
  · obtain ⟨x, rfl, hx⟩ := hn.expr.sound he
    refine ⟨u ++ (v ++ .keyword .on :: x), false, by simp, ?_, nofun⟩
    simpa [residual] using Join.on hu hcross hv hx
  · exact ⟨u ++ v, true, by simp, .bare hlax hu hcross hv, fun _ => hnext⟩

@[simp] theorem joinLeft_nil (left : TableRef) : left.joinLeft [] = left := rfl
@[simp] theorem joinLeft_cons (left : TableRef) (j : JoinType × TableRef × Expr)
    (js : List (JoinType × TableRef × Expr)) :
    left.joinLeft (j :: js) = (left.join j.1 j.2.1 j.2.2).joinLeft js := rfl

theorem joins (hn : n.Reads live g) :
    Reads live (.many fun kind => (Parser.join? kind).map (Parser.joinEntry o n))
      fun u js => ∀ left, Joins o.allowJoinWithoutOn g left u (left.joinLeft js) where
  sound {kinds js rest} hr := by
    change Parser.runMany _ kinds = _ at hr
    fun_induction Parser.runMany _ kinds generalizing js rest with
    | case1 => cases hr; exact ⟨[], rfl, fun _ => .done⟩
    | case2 => cases hr; exact ⟨[], rfl, fun _ => .done⟩
    | case3 => cases hr
    | case4 => cases hr
    | case5 kind kinds p hk j middle hp _ js last hm ih =>
      cases hr
      obtain ⟨words, hwords, rfl⟩ := Option.map_eq_some_iff.mp hk
      obtain ⟨u, bare, rfl, hu, hnext⟩ := joinEntry_sound hn hwords hp
      obtain ⟨v, rfl, hv⟩ := ih hm
      refine ⟨kind :: u ++ v, by simp, fun left => .step hu (fun hb hnil => ?_) (hv _)⟩
      obtain ⟨next, w, hw, hs⟩ := hnext hb
      obtain ⟨words', hwords'⟩ := Option.isSome_iff_exists.mp hs
      rw [hw] at hm
      have hlast := Parser.run_many_suffix (by rw [hwords', Option.map_some]) hm
      simp only [hnil, List.nil_append] at hw
      exact absurd (hw ▸ hlast).length_le (by simp)
  viable hl kinds failure hr hc := by
    -- A join that may be bare is completed by another one after it.
    obtain ⟨x, j', hx, hj'⟩ : ∃ x j', x ≠ [] ∧ Join o.allowJoinWithoutOn g false x j' := by
      obtain ⟨w, c, hw⟩ := hn.expr.productive hl
      exact ⟨_, _, by simp, .on .plain (by decide) (.mk "" .absent) hw⟩
    suffices ∃ u v js, kinds = u ++ failure.blamed ∧ v ≠ [] ∧
        ∀ left, Joins o.allowJoinWithoutOn g left (u ++ v) (left.joinLeft js) by
      obtain ⟨u, v, js, hu, -, hv⟩ := this
      exact ⟨u, v, js, hu, hv⟩
    change Parser.runMany _ kinds = _ at hr
    fun_induction Parser.runMany _ kinds with
    | case1 => cases hr
    | case2 => cases hr
    | case3 kind kinds p hk failure' hp =>
      cases hr
      obtain ⟨words, hwords, rfl⟩ := Option.map_eq_some_iff.mp hk
      obtain ⟨u, v, j, rfl, bare, hj⟩ := ((compositional live).joinEntry hn hwords).viable hl hp hc
      have hlast : ∀ left, Joins o.allowJoinWithoutOn g left x (left.joinLeft [j']) := by
        intro left
        simpa using Joins.step hj' (fun h => absurd h Bool.false_ne_true) .done
      refine ⟨kind :: u, v ++ x, [j, j'], by simp, by simp [hx], fun left => ?_⟩
      simpa using Joins.step hj (fun _ => hx) (hlast _)
    | case4 kind kinds p hk j middle hp _ failure' hm ih =>
      cases hr
      obtain ⟨words, hwords, rfl⟩ := Option.map_eq_some_iff.mp hk
      obtain ⟨u, bare, rfl, hu, -⟩ := joinEntry_sound hn hwords hp
      obtain ⟨v, w, js, rfl, hne, hw⟩ := ih hm
      refine ⟨kind :: u ++ v, w, j :: js, by simp, hne, fun left => ?_⟩
      simpa using Joins.step hu (fun _ => by simp [hne]) (hw _)
    | case5 => cases hr
  productive _ := ⟨[], [], fun _ => .done⟩

theorem tableRef (hn : n.Reads live g) :
    Reads live (Parser.tableRef o n) (Source o.allowJoinWithoutOn g) :=
  (compositional live).tableRef (joins hn)

/-- At every level that is not the last one there are an expression and a query. -/
theorem upTo_productive (lax : Bool) (depth : Nat) :
    (∃ u e, (upTo lax (depth + 1)).expr u e) ∧ ∃ u q, (upTo lax (depth + 1)).select u q :=
  ⟨⟨_, _, .single (.single (.predicate (.nullTest (.sum (.single (.single (.primary .star)))))))⟩,
    ⟨_, _, .mk .absent (.one .star) .absent .absent .absent .absent .absent .absent .absent⟩⟩

/-- What is read is nested no deeper than the limit. Where a token is blamed what stands
before it can be completed, which may take one level more. -/
theorem nested (o : ParserOptions) (depth more : Nat) :
    (Parser.nested o depth).Reads (0 < more) (upTo o.allowJoinWithoutOn (depth + more)) := by
  induction depth with
  | zero =>
    constructor
    · refine .refuse _ fun h => ?_
      obtain ⟨k, rfl⟩ := Nat.exists_eq_add_one.mpr h
      rw [Nat.zero_add]
      exact (upTo_productive _ k).1
    · refine .refuse _ fun h => ?_
      obtain ⟨k, rfl⟩ := Nat.exists_eq_add_one.mpr h
      rw [Nat.zero_add]
      exact (upTo_productive _ k).2
  | succ depth ih =>
    rw [Nat.succ_add]
    have hR := compositional (0 < more)
    exact ⟨(hR.disjunction ih).of_run_eq rfl, (hR.selectBody (tableRef ih) ih).of_run_eq rfl⟩

theorem nested_forget (o : ParserOptions) (depth more : Nat) :
    (Parser.nested o depth).Reads False (upTo o.allowJoinWithoutOn (depth + more)) :=
  ⟨(nested o depth more).expr.forget, (nested o depth more).select.forget⟩

end Reads

end SqlSyntax
