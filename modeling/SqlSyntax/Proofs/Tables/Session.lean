import Mathlib.Data.List.Forall2
import SqlSyntax.Proofs.Acceptance
import SqlSyntax.Proofs.Tables.Phrase
import SqlSyntax.Tree.Query

/-!
# What a query reads from stands in source order

The places outside brackets that name a table are those of the tree, in the same order: first
`FROM`, then one `JOIN` for each join of a spine that hangs to the left.
-/
namespace SqlSyntax

open SqlSyntax.Parser Grammar

/-! ## Tables and joins at a place -/

/-- The join that a place stands for: its type, the table that is named, and its condition.
That is `TRUE` for a cross join and before another join, and is read after `ON` otherwise. -/
def TablePlace.Joins (condition : Parser Expr) (place : TablePlace)
    (j : JoinType × TableRef × Expr) : Prop :=
  place.type = some j.1 ∧ ∃ rest, namedTable? place.after = some (j.2.1, rest) ∧
    ((j.1 = .cross ∨ rest.head?.any startsJoin) ∧ j.2.2 = .boolean true ∨
      j.1 ≠ .cross ∧ ∃ w last, rest = .keyword .on :: w ∧ condition.run w = .ok (j.2.2, last))

theorem namedTable?_eq_some {kinds rest : List TokenKind} {t : TableRef}
    (h : namedTable? kinds = some (t, rest)) :
    ∃ name, kinds.head? = some (.identifier name) ∧ t.tableNames = [name] := by
  unfold namedTable? at h
  split at h <;> cases h <;> exact ⟨_, rfl, rfl⟩

/-- A label is left out only where none can be read. -/
theorem label_eq_ok {kinds rest : List TokenKind} {l : Option String}
    (h : label.run kinds = .ok (l, rest)) :
    (∃ name, l = some name ∧ (kinds = .identifier name :: rest ∨
      kinds = .keyword .as :: .identifier name :: rest)) ∨
    (l = none ∧ rest = kinds ∧ Accepts.Unlabelled kinds) := by
  cases kinds with
  | nil =>
    cases h
    exact .inr ⟨rfl, rfl, nofun⟩
  | cons kind kinds =>
    rw [label, run_choose_cons] at h
    split at h
    · rename_i hk
      split at hk
      · cases hk
        obtain ⟨name, _, hname, hpure⟩ := run_bind_eq_ok_iff.mp h
        cases hpure
        obtain ⟨_, rfl, ⟨⟩⟩ := (Reads.compositional False).identifier.sound hname
        exact .inl ⟨name, rfl, .inr rfl⟩
      · cases hk
        cases h
        exact .inl ⟨_, rfl, .inl rfl⟩
      · cases hk
    · rename_i hk
      cases h
      refine .inr ⟨rfl, rfl, ?_⟩
      rintro _ ⟨⟩
      constructor
      · rintro rfl
        cases hk
      · rintro _ rfl
        cases hk

theorem namedTable?_of_unlabelled (name : String) {rest : List TokenKind}
    (h : Accepts.Unlabelled rest) :
    namedTable? (.identifier name :: rest) = some (.table name none, rest) := by
  cases rest with
  | nil => rfl
  | cons kind rest =>
    obtain ⟨has, hname⟩ := h kind rfl
    simp [namedTable?, has, hname]

theorem namedTable?_of_run {kinds rest : List TokenKind} {t : TableRef}
    (h : table.run kinds = .ok (t, rest)) : namedTable? kinds = some (t, rest) := by
  obtain ⟨name, k, hname, htail⟩ := run_bind_eq_ok_iff.mp h
  obtain ⟨_, rfl, ⟨⟩⟩ := (Reads.compositional False).identifier.sound hname
  obtain ⟨l, _, hlabel, hpure⟩ := run_bind_eq_ok_iff.mp htail
  cases hpure
  obtain ⟨_, rfl, rfl | rfl⟩ | ⟨rfl, rfl, hnext⟩ := label_eq_ok hlabel
  · rfl
  · rfl
  · exact namedTable?_of_unlabelled name hnext

theorem tableNames_joinLeft (first : TableRef) (joins : List (JoinType × TableRef × Expr)) :
    (first.joinLeft joins).tableNames =
      first.tableNames ++ joins.flatMap fun j => j.2.1.tableNames := by
  induction joins generalizing first with
  | nil => simp
  | cons j joins ih => simp [ih, TableRef.tableNames]

/-- The right tables of joins are named at their places. -/
theorem head?_after_of_joins {condition : Parser Expr} {places : List TablePlace}
    {joins : List (JoinType × TableRef × Expr)}
    (h : List.Forall₂ (TablePlace.Joins condition) places joins) :
    (places.map fun place => place.after.head?) =
      (joins.flatMap fun j => j.2.1.tableNames).map fun name => some (.identifier name) := by
  induction h with
  | nil => rfl
  | cons hj _ ih =>
    obtain ⟨-, _, hnamed, -⟩ := hj
    obtain ⟨name, hhead, hnames⟩ := namedTable?_eq_some hnamed
    simp [hhead, hnames, ih]

/-- The words of a join name one place and no other. -/
theorem tablePlaces_joinWords {u : List TokenKind} {type : JoinType} (h : JoinWords u type)
    (v : List TokenKind) :
    tablePlaces 0 .inner (u ++ v) = ⟨some type, v⟩ :: tablePlaces 0 .inner v := by
  cases h with
  | plain | inner | cross => rfl
  | left hu | right hu | full hu => cases hu <;> rfl

/-! ## Runs -/

variable {o : ParserOptions} {n : Nested} {g : Inner}

/-- What is read in between names no table. -/
theorem tablePlaces_of_run {α : Type} {p : Parser α} {L : Language α} (hp : Reads False p L)
    (hL : Skips L) {kinds rest : List TokenKind} {a : α} (h : p.run kinds = .ok (a, rest)) :
    tablePlaces 0 .inner kinds = tablePlaces 0 .inner rest := by
  obtain ⟨u, rfl, hu⟩ := hp.sound h
  exact hL hu rest

/-- A condition stands after the table of its join, and names no table outside brackets. -/
theorem condition_of_run (hn : n.Reads False g) (hg : Skips g.expr) {type : JoinType}
    {kinds rest : List TokenKind} {c : Expr}
    (h : (joinCondition o n type).run kinds = .ok (c, rest)) :
    ((type = .cross ∨ kinds.head?.any startsJoin) ∧ c = .boolean true ∨
      type ≠ .cross ∧ ∃ w last, kinds = .keyword .on :: w ∧ n.expr.run w = .ok (c, last)) ∧
      tablePlaces 0 .inner kinds = tablePlaces 0 .inner rest := by
  obtain ⟨rfl, rfl, rfl⟩ | ⟨hcross, w, rfl, hw⟩ | ⟨hcross, -, rfl, rfl, next, w, rfl, hnext⟩ :=
    Reads.joinCondition_eq_ok h
  · exact ⟨.inl ⟨.inl rfl, rfl⟩, rfl⟩
  · refine ⟨.inr ⟨hcross, w, rest, rfl, hw⟩, ?_⟩
    rw [tablePlaces_cons (by decide), tablePlaces_of_run hn.expr hg hw]
  · exact ⟨.inl ⟨.inr (by simpa using hnext), rfl⟩, rfl⟩

/-- The words of a join, its table and its condition are one place. -/
theorem joins_of_run (hn : n.Reads False g) (hg : Skips g.expr) {kind : TokenKind}
    {words : Parser JoinType} (hk : join? kind = some words) {kinds rest : List TokenKind}
    {j : JoinType × TableRef × Expr} (h : (joinEntry o n words).run kinds = .ok (j, rest)) :
    ∃ place : TablePlace, place.Joins n.expr j ∧
      tablePlaces 0 .inner (kind :: kinds) = place :: tablePlaces 0 .inner rest := by
  have hR := Reads.compositional False
  obtain ⟨type, k₁, hwords, hjoin⟩ := run_bind_eq_ok_iff.mp h
  obtain ⟨right, k₂, htable, hjoin⟩ := run_bind_eq_ok_iff.mp hjoin
  obtain ⟨c, k₃, hcondition, hpure⟩ := run_bind_eq_ok_iff.mp hjoin
  cases hpure
  obtain ⟨u, rfl, hu⟩ := (hR.join? hk).sound hwords
  obtain ⟨hc, hscan⟩ := condition_of_run hn hg hcondition
  refine ⟨⟨some type, k₁⟩, ⟨rfl, k₂, namedTable?_of_run htable, hc⟩, ?_⟩
  have hplace := tablePlaces_joinWords hu k₁
  rw [List.append_assoc, List.cons_append, List.nil_append] at hplace
  rw [hplace, tablePlaces_of_run hR.table Skips.table htable, hscan]

theorem forall₂_joins_of_run (hn : n.Reads False g) (hg : Skips g.expr)
    {kinds rest : List TokenKind} {joins : List (JoinType × TableRef × Expr)}
    (h : (many fun kind => (join? kind).map (joinEntry o n)).run kinds = .ok (joins, rest)) :
    ∃ places, List.Forall₂ (TablePlace.Joins n.expr) places joins ∧
      tablePlaces 0 .inner kinds = places ++ tablePlaces 0 .inner rest := by
  change runMany _ kinds = _ at h
  fun_induction runMany _ kinds generalizing joins rest with
  | case1 => cases h; exact ⟨[], .nil, rfl⟩
  | case2 => cases h; exact ⟨[], .nil, rfl⟩
  | case3 => cases h
  | case4 => cases h
  | case5 kind kinds p hk j middle hp _ joins last hm ih =>
    cases h
    obtain ⟨words, hwords, rfl⟩ := Option.map_eq_some_iff.mp hk
    obtain ⟨place, hplace, hfirst⟩ := joins_of_run hn hg hwords hp
    obtain ⟨places, hplaces, hothers⟩ := ih hm
    exact ⟨place :: places, .cons hplace hplaces, by rw [hfirst, hothers, List.cons_append]⟩

/-- What a query reads from, after `FROM`. -/
theorem tableRef_of_run (hn : n.Reads False g) (hg : Skips g.expr) {kinds rest : List TokenKind}
    {t : TableRef} (h : (tableRef o n).run kinds = .ok (t, rest)) :
    ∃ first last joins places, namedTable? kinds = some (first, last) ∧
      t = first.joinLeft joins ∧ List.Forall₂ (TablePlace.Joins n.expr) places joins ∧
      tablePlaces 0 .inner kinds = places ++ tablePlaces 0 .inner rest := by
  obtain ⟨first, last, htable, h⟩ := run_bind_eq_ok_iff.mp h
  obtain ⟨joins, _, hjoins, h⟩ := run_bind_eq_ok_iff.mp h
  cases h
  obtain ⟨places, hplaces, hscan⟩ := forall₂_joins_of_run hn hg hjoins
  refine ⟨first, last, joins, places, namedTable?_of_run htable, rfl, hplaces, ?_⟩
  rw [← hscan, tablePlaces_of_run (Reads.compositional False).table Skips.table htable]

theorem sourceClause_eq_ok {kinds rest : List TokenKind} {t : TableRef}
    (h : (sourceClause o n).run kinds = .ok (some t, rest)) :
    ∃ v, kinds = .keyword .from :: v ∧ (tableRef o n).run v = .ok (t, rest) := by
  by_cases hfrom : kinds.head? = some (.keyword .from)
  · obtain ⟨v, rfl⟩ := List.head?_eq_some_iff.mp hfrom
    rw [sourceClause, run_after_self] at h
    obtain ⟨_, _, htable, hpure⟩ := run_bind_eq_ok_iff.mp h
    cases hpure
    exact ⟨v, rfl, htable⟩
  · rw [sourceClause, run_after_of_head?_ne _ _ hfrom] at h
    cases h

/-- Before and after what a query reads from it names no table. -/
theorem source_of_run (hn : n.Reads False g) (hg : Skips g.expr) {kinds rest : List TokenKind}
    {q : Select} (h : (selectBody o n).run kinds = .ok (q, rest)) {t : TableRef}
    (hs : q.source = some t) :
    ∃ v w, (tableRef o n).run v = .ok (t, w) ∧
      tablePlaces 0 .inner kinds = ⟨none, v⟩ :: tablePlaces 0 .inner v ∧
      tablePlaces 0 .inner w = tablePlaces 0 .inner rest := by
  have hR := Reads.compositional False
  obtain ⟨_, k₁, h₁, h⟩ := run_bind_eq_ok_iff.mp h
  obtain ⟨_, k₂, h₂, h⟩ := run_bind_eq_ok_iff.mp h
  obtain ⟨_, k₃, h₃, h⟩ := run_bind_eq_ok_iff.mp h
  obtain ⟨source, k₄, h₄, h⟩ := run_bind_eq_ok_iff.mp h
  obtain ⟨_, k₅, h₅, h⟩ := run_bind_eq_ok_iff.mp h
  obtain ⟨_, k₆, h₆, h⟩ := run_bind_eq_ok_iff.mp h
  obtain ⟨_, k₇, h₇, h⟩ := run_bind_eq_ok_iff.mp h
  obtain ⟨_, k₈, h₈, h⟩ := run_bind_eq_ok_iff.mp h
  obtain ⟨_, k₉, h₉, h⟩ := run_bind_eq_ok_iff.mp h
  obtain ⟨_, k, h₁₀, hpure⟩ := run_bind_eq_ok_iff.mp h
  cases hpure
  obtain rfl : source = some t := hs
  obtain ⟨v, rfl, htable⟩ := sourceClause_eq_ok h₄
  have hselect : Skips fun u (_ : Unit) => u = [.keyword .select] := by
    rintro _ _ rfl
    simp
  refine ⟨v, k₄, htable, ?_, ?_⟩
  · rw [tablePlaces_of_run (hR.expect _) hselect h₁,
      tablePlaces_of_run hR.distinctClause Skips.distinctClause h₂,
      tablePlaces_of_run (hR.commaList (hR.selectItem hn)) (.commaList (.item hg)) h₃]
    rfl
  · rw [tablePlaces_of_run (hR.clause .where hn.expr) (.clause nofun hg) h₅,
      tablePlaces_of_run (hR.byClause .group hn.expr) (.byClause nofun hg) h₆,
      tablePlaces_of_run (hR.clause .having hn.expr) (.clause nofun hg) h₇,
      tablePlaces_of_run (hR.byClause .order (hR.orderEntry hn))
        (.byClause nofun (.orderEntry hg)) h₈,
      tablePlaces_of_run (hR.clause .limit (hR.rowCount .limit)) (.clause nofun .rowCount) h₉,
      tablePlaces_of_run (hR.clause .offset (hR.rowCount .offset)) (.clause nofun .rowCount) h₁₀]

/-! ## Statements -/

theorem select_of_run {kinds rest : List TokenKind} {q : Select}
    (h : (statement o).run kinds = .ok (.select q, rest)) :
    (selectBody o (nested o (o.maxDepth - 1))).run kinds = .ok (q, rest) := by
  obtain ⟨u, rfl, hu⟩ := (Reads.statement o 0).sound h
  cases hu with
  | select hu =>
    obtain ⟨v, rfl⟩ := (Accepts.nested o o.maxDepth).begins_select hu
    obtain ⟨_, _, hselect, hpure⟩ := run_bind_eq_ok_iff.mp h
    cases hpure
    cases hdepth : o.maxDepth with
    | zero =>
      rw [hdepth] at hselect
      cases hselect
    | succ depth =>
      rw [hdepth] at hselect
      exact hselect

/-- Of the tokens before the end marker those outside all brackets tell what a query reads
from. The tables of the tree are named right after `FROM` and after each `JOIN`, in this order,
and the tree hangs to the left with one join for each `JOIN`. -/
theorem source_in_order {tokens : List Token} {o : ParserOptions} {q : Select} {t : TableRef}
    (h : parseTokens tokens o = .ok (.select q)) (hs : q.source = some t) :
    ((tablePlaces 0 .inner (content tokens)).map fun place => place.after.head?) =
        t.tableNames.map (fun name => some (.identifier name)) ∧
      ∃ after places first last joins,
        tablePlaces 0 .inner (content tokens) = ⟨none, after⟩ :: places ∧
        namedTable? after = some (first, last) ∧ t = first.joinLeft joins ∧
        List.Forall₂ (TablePlace.Joins (nested o (o.maxDepth - 1)).expr) places joins := by
  obtain ⟨rest, hrun⟩ := Session.run_eq_ok_iff.mp h
  change (soleStatement o).run (content tokens) = _ at hrun
  obtain rfl := rest_of_content hrun
  have hR := Reads.compositional False
  obtain ⟨_, k₁, hstatement, hend⟩ := run_bind_eq_ok_iff.mp hrun
  obtain ⟨_, k₂, hsemicolon, hend⟩ := run_bind_eq_ok_iff.mp hend
  obtain ⟨_, _, hatEnd, hpure⟩ := run_bind_eq_ok_iff.mp hend
  cases hpure
  have hn := Reads.nested_forget o (o.maxDepth - 1) 0
  have hg := Skips.upTo o.allowJoinWithoutOn (o.maxDepth - 1 + 0)
  obtain ⟨after, w, htable, hbefore, hbehind⟩ := source_of_run hn hg (select_of_run hstatement) hs
  obtain ⟨first, last, joins, places, hfirst, rfl, hplaces, hscan⟩ := tableRef_of_run hn hg htable
  have hnone : tablePlaces 0 .inner k₁ = [] := by
    rw [tablePlaces_of_run (hR.skip .semicolon) .semicolon hsemicolon,
      tablePlaces_of_run (hR.atEnd .endOfStatement) .nothing hatEnd]
    rfl
  rw [hbehind, hnone, List.append_nil] at hscan
  rw [hscan] at hbefore
  refine ⟨?_, after, places, first, last, joins, hbefore, hfirst, rfl, hplaces⟩
  obtain ⟨name, hhead, hname⟩ := namedTable?_eq_some hfirst
  rw [hbefore, List.map_cons, head?_after_of_joins hplaces, tableNames_joinLeft, hname, hhead]
  rfl

/-- `SELECT (SELECT * FROM x) FROM a b LEFT OUTER JOIN c JOIN d ON (SELECT * FROM y JOIN z ON *)
CROSS JOIN e WHERE *;` -/
def joinedTables : List Token := tokensOf [.keyword .select, .leftParen, .keyword .select, .star,
  .keyword .from, .identifier "x", .rightParen, .keyword .from, .identifier "a", .identifier "b",
  .keyword .left, .keyword .outer, .keyword .join, .identifier "c", .keyword .join,
  .identifier "d", .keyword .on, .leftParen, .keyword .select, .star, .keyword .from,
  .identifier "y", .keyword .join, .identifier "z", .keyword .on, .star, .rightParen,
  .keyword .cross, .keyword .join, .identifier "e", .keyword .where, .star, .semicolon]

theorem source_in_order_joinedTables :
    ∃ q t, parseTokens joinedTables ⟨5, true⟩ = .ok (.select q) ∧ q.source = some t ∧
      t.tableNames = ["a", "c", "d", "e"] ∧
      ((tablePlaces 0 .inner (content joinedTables)).map fun place => place.after.head?) =
        t.tableNames.map (fun name => some (.identifier name)) := by
  have hparse : ∃ q t, parseTokens joinedTables ⟨5, true⟩ = .ok (.select q) ∧
      q.source = some t ∧ t.tableNames = ["a", "c", "d", "e"] :=
    ⟨_, _, by with_unfolding_all rfl, rfl, rfl⟩
  obtain ⟨q, t, hparse, hsource, hnames⟩ := hparse
  exact ⟨q, t, hparse, hsource, hnames, (source_in_order hparse hsource).1⟩

/-- `SELECT * FROM a` with a join behind the end marker, which nobody reads. -/
def unreadJoin : List Token := tokensOf [.keyword .select, .star, .keyword .from,
  .identifier "a", .endOfInput, .keyword .cross, .keyword .join, .identifier "b"]

theorem parseTokens_unreadJoin :
    ∃ q t, parseTokens unreadJoin ⟨64, true⟩ = .ok (.select q) ∧ q.source = some t ∧
      t.tableNames = ["a"] ∧
      ((tablePlaces 0 .inner (unreadJoin.map Token.kind)).map fun place => place.after.head?) =
        [some (.identifier "a"), some (.identifier "b")] :=
  ⟨_, _, by with_unfolding_all rfl, rfl, rfl, rfl⟩

end SqlSyntax
