import SqlSyntax.Proofs.Grammar.Statement
import SqlSyntax.Proofs.Printing.Basic
import SqlSyntax.Proofs.Printing.Counted

/-!
# What is printed is a phrase

A well-formed tree, if it is counted, is printed as a phrase for it, wherever at least so many
expressions and queries may be open as are open in what is printed.
-/
namespace SqlSyntax

open Grammar

/-- The layers of expressions from the loosest on, numbered as in printing. The rows of `NOT` and
of minus signs are those that are counted right. -/
def Grammar.layer (g : Inner) : Nat → Language Expr
  | 0 => Disjunction g
  | 1 => Conjunction g
  | 2 => CountedNots g
  | 3 => Predicate g
  | 4 => NullTest g
  | 5 => Grammar.Sum g
  | 6 => Product g
  | 7 => CountedMinuses g
  | _ => Primary g

theorem layer_succ {g : Inner} {n : Nat} {u : List TokenKind} {e : Expr}
    (h : layer g (n + 1) u e) : layer g n u e := by
  match n with
  | 0 => exact .single h
  | 1 => exact .single h.negation
  | 2 => exact .mk 0 (by decide) h
  | 3 => exact .nullTest h
  | 4 => exact .sum h
  | 5 => exact .single h
  | 6 => exact .single h.signed
  | 7 => exact .mk 0 (by decide) (fun hlt => absurd hlt (Nat.lt_irrefl 0)) h
  | _ + 8 => exact h

theorem layer_of_le {g : Inner} {n m : Nat} {u : List TokenKind} {e : Expr}
    (h : layer g m u e) (hle : n ≤ m) : layer g n u e := by
  induction hle with
  | refl => exact h
  | step _ ih => exact ih (layer_succ h)

/-- A primary expression fits in any place. -/
theorem layer_of_primary {g : Inner} (n : Nat) {u : List TokenKind} {e : Expr}
    (h : Primary g u e) : layer g n u e :=
  layer_of_le (m := n + 8) h (Nat.le_add_right n 8)

/-- An operator with operands of its layers makes an expression of its own layer. -/
theorem layer_binary {g : Inner} (operator : Operator) {u v : List TokenKind} {e f : Expr}
    (hu : layer g operator.leftLayer u e) (hv : layer g operator.rightLayer v f) :
    layer g operator.layer (u ++ operator.kind :: v) (.binary e operator f) := by
  cases operator with
  | or => exact .step hu hv
  | and => exact .step hu.negation hv
  | plus | minus => exact .step hu rfl hv
  | multiply | divide => exact .step hu rfl hv.signed
  | equals | notEquals | lessThan | greaterThan | lessOrEqual | greaterOrEqual | like =>
    exact .comparison hu rfl hv

/-- The kinds are a phrase for the value at every level that has room for what is open. -/
def Prints (lax : Bool) (L : Inner → Language α) (p : Printed) (a : α) : Prop :=
  ∀ depth, p.depth ≤ depth → L (upTo lax depth) p.kinds a

namespace Prints

variable {lax : Bool} {α : Type}

/-! ## Places -/

theorem opened {n : Nat} {p : Printed} {e : Expr} (h : Prints lax (layer · n) p e) :
    Prints lax Inner.expr p.opened e := by
  intro depth hd
  obtain ⟨depth, rfl⟩ := Nat.exists_eq_add_one.mpr (Nat.lt_of_lt_of_le (Nat.succ_pos _) hd)
  exact layer_of_le (h depth (Nat.le_of_succ_le_succ hd)) (Nat.zero_le n)

theorem brackets {n m : Nat} {p : Printed} {e : Expr} (h : Prints lax (layer · n) p e) :
    Prints lax (layer · m) p.opened.parens e := by
  intro depth hd
  rw [Printed.depth_parens] at hd
  exact layer_of_primary m (.brackets (.expr (opened h depth hd)))

theorem within {own : Nat} (place : Nat) {p : Printed} {e : Expr}
    (h : Prints lax (layer · own) p e) :
    Prints lax (layer · place) (p.within own place) e := by
  unfold Printed.within
  split
  · exact brackets h
  · rename_i hle
    exact fun depth hd => layer_of_le (h depth hd) (Nat.le_of_not_lt hle)

/-- Where a star may not come first it does not. -/
theorem unstarred {n : Nat} {p : Printed} {e : Expr} (h : Prints lax (layer · n) p e) :
    Prints lax Inner.expr p.unstarred.opened e ∧ p.unstarred.kinds.head? ≠ some .star := by
  unfold Printed.unstarred
  split
  · exact ⟨opened (brackets (m := 0) h), by simp⟩
  · rename_i hstar
    exact ⟨opened h, hstar⟩

theorem commaList {L : Inner → Language α} {f : α → Printed} {as : List α} (hne : as ≠ [])
    (h : ∀ a ∈ as, Prints lax L (f a) a) :
    Prints lax (fun g => CommaList (L g)) (Printed.commaList (as.map f)) as := by
  intro depth hd
  induction as with
  | nil => exact absurd rfl hne
  | cons a as ih =>
    rw [List.forall_mem_cons] at h
    cases as with
    | nil => exact .one (h.1 depth hd)
    | cons b bs =>
      simp only [List.map_cons, Printed.commaList, Printed.depth_append, Nat.max_le] at hd
      exact .cons (h.1 depth hd.1) (ih (by simp) h.2 hd.2.2)

theorem flag (condition : Bool) (kind : TokenKind) :
    Flag kind (Printed.when condition kind).kinds condition := by
  cases condition with
  | false => exact .absent
  | true => exact .present

/-! ## Expressions -/

variable {e f : Expr}

theorem binary (operator : Operator) (he : Prints lax (layer · e.layer) e.print e)
    (hf : Prints lax (layer · f.layer) f.print f) :
    Prints lax (layer · operator.layer) (Expr.print (.binary e operator f))
      (.binary e operator f) := by
  intro depth hd
  simp only [Expr.print, Printed.depth_append, Nat.max_le] at hd
  simpa [Expr.print] using layer_binary operator (within _ he depth hd.1) (within _ hf depth hd.2.2)

theorem not (he : Prints lax (layer · e.layer) e.print e) (hcounted : (Expr.not e).Counted) :
    Prints lax CountedNots (Expr.print (.not e)) (.not e) := by
  intro depth hd
  simp only [Expr.print, Printed.depth_append, Nat.max_le] at hd
  exact (within 2 he depth hd.2).not hcounted

theorem negate (he : Prints lax (layer · e.layer) e.print e) (hsign : e.KeepsSign)
    (hcounted : (Expr.negate e).Counted) :
    Prints lax CountedMinuses (Expr.print (.negate e)) (.negate e) := by
  intro depth hd
  simp only [Expr.print, Printed.depth_append, Nat.max_le] at hd
  exact (within 7 he depth hd.2).negate hsign hcounted

theorem argument (he : Prints lax (layer · e.layer) e.print e) :
    Prints lax Argument
      (if e.isStar then e.print else e.print.unstarred.opened) e := by
  by_cases hstar : e.isStar
  · rw [if_pos hstar]
    cases e with
    | star => exact fun _ _ => .star
    | _ => cases hstar
  · rw [if_neg hstar]
    exact fun depth hd => .expr ((unstarred he).1 depth hd) (unstarred he).2

theorem aggregate (function : AggregateFunction) (distinct : Bool)
    (he : Prints lax (layer · e.layer) e.print e) :
    Prints lax Primary (Expr.print (.aggregate function e distinct))
      (.aggregate function e distinct) := by
  intro depth hd
  simp only [Expr.print, Printed.depth_append, Printed.depth_parens, Nat.max_le] at hd
  simpa [Expr.print] using
    Primary.aggregate function (flag distinct _) (argument he depth hd.2.2)

theorem isNull (negated : Bool) (he : Prints lax (layer · e.layer) e.print e) :
    Prints lax NullTest (Expr.print (.isNull e negated)) (.isNull e negated) := by
  intro depth hd
  simp only [Expr.print, Printed.depth_append, Nat.max_le] at hd
  simpa [Expr.print] using
    NullTest.isNull (within 5 he depth hd.1) (flag negated (.keyword .not))

/-- The functions that print lists entry by entry are maps. -/
theorem eq_map_of_cons {print : List α → List Printed} {f : α → Printed} (hnil : print [] = [])
    (hcons : ∀ a as, print (a :: as) = f a :: print as) (as : List α) :
    print as = as.map f := by
  induction as with
  | nil => exact hnil
  | cons a as ih => rw [hcons, ih, List.map_cons]

theorem printOpened_eq (es : List Expr) : printOpened es = es.map fun e => e.print.opened :=
  eq_map_of_cons rfl (fun _ _ => rfl) es

theorem exprs {es : List Expr} (hne : es ≠ [])
    (h : ∀ e ∈ es, Prints lax (layer · e.layer) e.print e) :
    Prints lax (fun g => CommaList g.expr) (Printed.commaList (printOpened es)) es := by
  rw [printOpened_eq]
  exact commaList hne fun e he => opened (h e he)

theorem inList {es : List Expr} (negated : Bool) (he : Prints lax (layer · e.layer) e.print e)
    (hne : es ≠ []) (hes : ∀ f ∈ es, Prints lax (layer · f.layer) f.print f) :
    Prints lax Predicate (Expr.print (.inList e es negated)) (.inList e es negated) := by
  intro depth hd
  simp only [Expr.print, Printed.depth_append, Printed.depth_parens, Nat.max_le] at hd
  simpa [Expr.print] using
    Predicate.membership (within 4 he depth hd.1) (flag negated (.keyword .not))
      (.list (exprs hne hes depth hd.2.2.2))

theorem select {q : Select} (hq : Prints lax (Query lax) q.print q) :
    Prints lax Inner.select q.print.opened q := by
  intro depth hd
  obtain ⟨depth, rfl⟩ := Nat.exists_eq_add_one.mpr (Nat.lt_of_lt_of_le (Nat.succ_pos _) hd)
  exact hq depth (Nat.le_of_succ_le_succ hd)

theorem inSubquery {q : Select} (negated : Bool)
    (he : Prints lax (layer · e.layer) e.print e) (hq : Prints lax (Query lax) q.print q) :
    Prints lax Predicate (Expr.print (.inSubquery e (.select q) negated))
      (.inSubquery e (.select q) negated) := by
  intro depth hd
  simp only [Expr.print, Statement.print, Printed.depth_append, Printed.depth_parens,
    Nat.max_le] at hd
  simpa [Expr.print, Statement.print] using
    Predicate.membership (within 4 he depth hd.1) (flag negated (.keyword .not))
      (.subquery (select hq depth hd.2.2.2))

theorem between {low high : Expr} (negated : Bool)
    (he : Prints lax (layer · e.layer) e.print e)
    (hlow : Prints lax (layer · low.layer) low.print low)
    (hhigh : Prints lax (layer · high.layer) high.print high) :
    Prints lax Predicate (Expr.print (.between e low high negated))
      (.between e low high negated) := by
  intro depth hd
  simp only [Expr.print, Printed.depth_append, Nat.max_le] at hd
  simpa [Expr.print] using
    Predicate.range (within 4 he depth hd.1) (flag negated (.keyword .not))
      (within 4 hlow depth hd.2.2.2.1) (within 4 hhigh depth hd.2.2.2.2.2)

theorem subquery {q : Select} (hq : Prints lax (Query lax) q.print q) :
    Prints lax Primary (Expr.print (.subquery (.select q))) (.subquery (.select q)) := by
  intro depth hd
  simp only [Expr.print, Statement.print, Printed.depth_parens] at hd
  simpa [Expr.print, Statement.print] using
    Primary.brackets (.subquery (select hq depth hd))

/-! ## Queries -/

theorem label (l : Option String) : Label (printLabel l).kinds l := by
  cases l with
  | none => exact .absent
  | some name => exact .marked name

theorem projected (l : Option String) (he : Prints lax (layer · e.layer) e.print e) :
    Prints lax Item (SelectItem.print (.projected e l)) (.projected e l) := by
  intro depth hd
  simp only [SelectItem.print, Printed.depth_append, Nat.max_le] at hd
  obtain ⟨h, hstar⟩ := unstarred he
  exact .expr (h depth hd.1) hstar (label l)

theorem table (name : String) (l : Option String) :
    Table (TableRef.print (.table name l)).kinds (.table name l) := .mk name (label l)

theorem joinWords (type : JoinType) : JoinWords type.kinds type := by
  cases type with
  | inner => exact .inner
  | left => exact .left .absent
  | right => exact .right .absent
  | full => exact .full .absent
  | cross => exact .cross

theorem joins_concat {g : Inner} {u v : List TokenKind} {left joined right : TableRef}
    {type : JoinType} {condition : Expr} (hu : Joins lax g left u joined)
    (hv : Join lax g false v (type, right, condition)) :
    Joins lax g left (u ++ v) (.join joined type right condition) := by
  induction hu with
  | done => simpa using Joins.step hv (fun h => absurd h Bool.false_ne_true) .done
  | step hj hbare _ ih =>
    rw [List.append_assoc]
    exact .step hj (fun hb => by simp [hbare hb]) ih

theorem source_concat {g : Inner} {u v : List TokenKind} {left right : TableRef}
    {type : JoinType} {condition : Expr} (hu : Source lax g u left)
    (hv : Join lax g false v (type, right, condition)) :
    Source lax g (u ++ v) (.join left type right condition) := by
  cases hu with
  | mk hfirst hjoins =>
    rw [List.append_assoc]
    exact .mk hfirst (joins_concat hjoins hv)

theorem join {left : TableRef} {type : JoinType} (name : String) (l : Option String)
    (hleft : Prints lax (Source lax) left.print left)
    (he : Prints lax (layer · e.layer) e.print e) (hcross : type = .cross → e = .boolean true) :
    Prints lax (Source lax) (TableRef.print (.join left type (.table name l) e))
      (.join left type (.table name l) e) := by
  intro depth hd
  simp only [TableRef.print, Printed.depth_append, Nat.max_le] at hd
  have hj : Join lax (upTo lax depth) false
      (type.kinds ++ ((TableRef.print (.table name l)).kinds ++ (printOn type e.print).kinds))
      (type, .table name l, e) := by
    by_cases ht : type = .cross
    · subst ht
      rw [hcross rfl]
      simpa [printOn, JoinType.kinds] using Join.cross .cross (table name l)
    · have hon := hd.2.2.2
      simp only [printOn, if_neg ht, Printed.depth_append, Nat.max_le] at hon
      simpa [printOn, ht] using
        Join.on (joinWords type) ht (table name l) (opened he depth hon.2)
  exact source_concat (hleft depth hd.1) hj

theorem clause (keyword : Keyword) {c : Option Expr}
    (h : ∀ e ∈ c, Prints lax (layer · e.layer) e.print e) :
    Prints lax (fun g => Clause keyword g.expr) (printClause keyword c) c := by
  intro depth hd
  cases c with
  | none => exact .absent
  | some e =>
    simp only [printClause, Printed.depth_append, Nat.max_le] at hd
    exact .present (opened (h e rfl) depth hd.2)

theorem source {s : Option TableRef} (h : ∀ t ∈ s, Prints lax (Source lax) t.print t) :
    Prints lax (fun g => Clause .from (Source lax g)) (printSource s) s := by
  intro depth hd
  cases s with
  | none => exact .absent
  | some t =>
    simp only [printSource, Printed.depth_append, Nat.max_le] at hd
    exact .present (h t rfl depth hd.2)

theorem byClause {L : Inner → Language α} (keyword : Keyword) {f : α → Printed} {as : List α}
    (h : ∀ a ∈ as, Prints lax L (f a) a) :
    Prints lax (fun g => ByClause keyword (L g)) (printBy keyword (as.map f)) as := by
  intro depth hd
  cases as with
  | nil => exact .absent
  | cons a as =>
    simp only [List.map_cons, printBy, Printed.depth_append, Nat.max_le] at hd
    exact .present (commaList (by simp) h depth hd.2)

theorem rowCount (keyword : Keyword) {x : Option Nat} (h : ∀ n ∈ x, n ≤ maxRowCount) :
    Clause keyword RowCount (printRowCount keyword x).kinds x := by
  cases x with
  | none => exact .absent
  | some n =>
    have hn : n < 2 ^ 63 := Nat.lt_of_le_of_lt (h n rfl) (by decide)
    have hvalue : (Int64.ofNat n).toInt = n := Int64.toInt_ofNat_of_lt hn
    have hcount := RowCount.mk (Int64.ofNat n) (Int64.le_iff_toInt_le.mpr (by simp [hvalue]))
    rw [hvalue, Int.toNat_natCast] at hcount
    exact .present hcount

theorem orderEntry (direction : OrderDirection) (he : Prints lax (layer · e.layer) e.print e) :
    Prints lax OrderEntry (OrderBy.print ⟨e, direction⟩) ⟨e, direction⟩ := by
  intro depth hd
  simp only [OrderBy.print, Printed.depth_append, Nat.max_le] at hd
  have hdirection : Direction [.keyword direction.keyword] direction := by
    cases direction with
    | ascending => exact .asc
    | descending => exact .desc
  exact .mk (opened he depth hd.1) hdirection

theorem printItems_eq (is : List SelectItem) : printItems is = is.map SelectItem.print :=
  eq_map_of_cons rfl (fun _ _ => rfl) is

theorem printOrder_eq (entries : List OrderBy) :
    printOrder entries = entries.map OrderBy.print :=
  eq_map_of_cons rfl (fun _ _ => rfl) entries

theorem distinctClause (distinct : Bool) :
    DistinctClause (Printed.when distinct (.keyword .distinct)).kinds distinct := by
  cases distinct with
  | false => exact .absent
  | true => exact .distinct

theorem query {distinct : Bool} {columns : List SelectItem} {s : Option TableRef}
    {condition : Option Expr} {groupBy : List Expr} {having : Option Expr}
    {orderBy : List OrderBy} {limit offset : Option Nat} (hne : columns ≠ [])
    (hcolumns : ∀ i ∈ columns, Prints lax Item i.print i)
    (hsource : ∀ t ∈ s, Prints lax (Source lax) t.print t)
    (hcondition : ∀ e ∈ condition, Prints lax (layer · e.layer) e.print e)
    (hgroupBy : ∀ e ∈ groupBy, Prints lax (layer · e.layer) e.print e)
    (hhaving : ∀ e ∈ having, Prints lax (layer · e.layer) e.print e)
    (horderBy : ∀ entry ∈ orderBy, Prints lax OrderEntry entry.print entry)
    (hlimit : ∀ n ∈ limit, n ≤ maxRowCount) (hoffset : ∀ n ∈ offset, n ≤ maxRowCount) :
    Prints lax (Query lax)
      (Select.print ⟨distinct, columns, s, condition, groupBy, having, orderBy, limit, offset⟩)
      ⟨distinct, columns, s, condition, groupBy, having, orderBy, limit, offset⟩ := by
  intro depth hd
  simp only [Select.print, printItems_eq, printOpened_eq, printOrder_eq, Printed.depth_append,
    Nat.max_le] at hd
  obtain ⟨-, -, d₂, d₃, d₄, d₅, d₆, d₇, -⟩ := hd
  have h := Query.mk (distinctClause distinct) (commaList hne hcolumns depth d₂)
    (source hsource depth d₃) (clause .where hcondition depth d₄)
    (byClause .group (fun e he => opened (hgroupBy e he)) depth d₅)
    (clause .having hhaving depth d₆) (byClause .order horderBy depth d₇)
    (rowCount .limit hlimit) (rowCount .offset hoffset)
  simpa [Select.print, printItems_eq, printOpened_eq, printOrder_eq] using h

mutual

theorem of_expr {e : Expr} :
    e.WellFormed → e.Counted → Prints lax (layer · e.layer) e.print e
  | .literal value, _ => fun _ _ => Primary.literal value
  | .identifier name, _ => fun _ _ => Primary.identifier name
  | .qualified table column, _ => fun _ _ => Primary.qualified table column
  | .star, _ => fun _ _ => Primary.star
  | .qualifiedStar table, _ => fun _ _ => Primary.qualifiedStar table
  | .binary operator he hf, hc =>
    binary operator (of_expr he (hc.operand List.mem_cons_self))
      (of_expr hf (hc.operand (List.mem_cons_of_mem _ List.mem_cons_self)))
  | .not he, hc => not (of_expr he (hc.operand List.mem_cons_self)) hc
  | .negate he hsign, hc => negate (of_expr he (hc.operand List.mem_cons_self)) hsign hc
  | .aggregate function distinct he, hc =>
    aggregate function distinct (of_expr he (hc.operand List.mem_cons_self))
  | .isNull negated he, hc => isNull negated (of_expr he (hc.operand List.mem_cons_self))
  | .inList negated he hne hes, hc =>
    inList negated (of_expr he (hc.operand List.mem_cons_self)) hne fun f hf =>
      of_expr (hes f hf) (hc.operand (List.mem_cons_of_mem _ hf))
  | .inSubquery negated he hq, hc =>
    inSubquery negated (of_expr he (hc.operand List.mem_cons_self))
      (of_select hq fun _ hf => hc.operand (List.mem_cons_of_mem _ hf))
  | .between negated he hlow hhigh, hc =>
    between negated (of_expr he (hc.operand List.mem_cons_self))
      (of_expr hlow (hc.operand (List.mem_cons_of_mem _ List.mem_cons_self)))
      (of_expr hhigh (hc.operand (List.mem_cons_of_mem _ (List.mem_cons_of_mem _
        List.mem_cons_self))))
  | .subquery hq, hc => subquery (of_select hq fun _ hf => hc.operand hf)

theorem of_item {i : SelectItem} : i.WellFormed → i.Counted → Prints lax Item i.print i
  | .allColumns, _ => fun _ _ => .star
  | .projected label he, hc => projected label (of_expr he (List.forall_mem_singleton.mp hc))

theorem of_tableRef {t : TableRef} :
    t.WellFormed → t.Counted → Prints lax (Source lax) t.print t
  | .table name label, _ => fun _ _ => by simpa using Source.mk (table name label) .done
  | .join name label hleft he hcross, hc =>
    join name label (of_tableRef hleft (TableRef.counted_join_iff.mp hc).1)
      (of_expr he (TableRef.counted_join_iff.mp hc).2.2) hcross

theorem of_orderBy {entry : OrderBy} :
    entry.WellFormed → entry.expr.Counted → Prints lax OrderEntry entry.print entry
  | .mk direction he, hc => orderEntry direction (of_expr he hc)

theorem of_select {q : Select} : q.WellFormed → q.Counted → Prints lax (Query lax) q.print q
  | .mk hne hcolumns hsource hcondition hgroupBy hhaving horderBy hlimit hoffset, hc =>
    have ⟨c₁, c₂, c₃, c₄, c₅, c₆⟩ := Select.counted_iff.mp hc
    query hne (fun i hi => of_item (hcolumns i hi) (c₁ i hi))
      (fun t ht => of_tableRef (hsource t ht) (c₂ t ht))
      (fun e he => of_expr (hcondition e he) (c₃ e he))
      (fun e he => of_expr (hgroupBy e he) (c₄ e he))
      (fun e he => of_expr (hhaving e he) (c₅ e he))
      (fun entry he => of_orderBy (horderBy entry he) (c₆ entry he)) hlimit hoffset

end

/-! ## Statements -/

theorem assign {a : Assignment} (h : a.WellFormed) (hc : a.value.Counted) :
    Prints lax Assign a.print a := by
  cases h with
  | mk column he =>
    intro depth hd
    simp only [Assignment.print, Printed.depth_append, Nat.max_le] at hd
    exact .mk column (opened (of_expr he hc) depth hd.2)

theorem printAssignments_eq (as : List Assignment) :
    printAssignments as = as.map Assignment.print :=
  eq_map_of_cons rfl (fun _ _ => rfl) as

theorem row {es : List Expr} (h : es ≠ [] ∧ ∀ e ∈ es, e.WellFormed)
    (hc : ∀ e ∈ es, e.Counted) :
    Prints lax Row (Printed.commaList (printOpened es)).parens es := by
  intro depth hd
  rw [Printed.depth_parens] at hd
  exact .mk (exprs h.1 (fun e he => of_expr (h.2 e he) (hc e he)) depth hd)

theorem printRows_eq (rows : List (List Expr)) :
    printRows rows = rows.map fun row => (Printed.commaList (printOpened row)).parens :=
  eq_map_of_cons rfl (fun _ _ => rfl) rows

theorem columns (names : List String) : Columns (printColumns names).kinds names := by
  cases names with
  | nil => exact .absent
  | cons name names =>
    have h : Prints false (fun _ => CommaList Name)
        (Printed.commaList ((name :: names).map fun name => .ofKinds [.identifier name]))
        (name :: names) :=
      commaList (by simp) fun name _ _ _ => .mk name
    exact .present (h _ (Nat.le_refl _))

theorem columnDefs {columns : List ColumnDef} (hne : columns ≠ []) :
    CommaList Column (Printed.commaList (columns.map ColumnDef.print)).kinds columns := by
  have h : Prints false (fun _ => CommaList Column)
      (Printed.commaList (columns.map ColumnDef.print)) columns := by
    refine commaList hne fun c _ _ _ => ?_
    simpa [ColumnDef.print] using Column.mk c.name c.dataType .absent .done
  exact h _ (Nat.le_refl _)

theorem statement {s : Statement} (h : s.WellFormed) (hc : s.Counted) :
    Prints lax Phrase s.print s := by
  intro depth hd
  cases h with
  | select hq => exact .select (select (of_select hq hc) depth hd)
  | @insert _ rows table hne hrows hwidth =>
    have hrow : ∀ r ∈ rows, Prints lax Row (Printed.commaList (printOpened r)).parens r :=
      fun r hr => row (hrows r hr) fun e he => hc e (List.mem_flatten_of_mem hr he)
    simp only [Statement.print, printRows_eq, Printed.depth_append, Nat.max_le] at hd
    simpa [Statement.print, printRows_eq] using
      Phrase.insert table (columns _) (commaList hne hrow depth hd.2.2.2) hwidth
  | @update assignments condition table hne has hcondition =>
    simp only [Statement.Counted, Statement.exprs, List.forall_mem_append, List.forall_mem_map,
      Option.mem_toList] at hc
    have hassign : ∀ a ∈ assignments, Prints lax Assign a.print a :=
      fun a ha => assign (has a ha) (hc.1 a ha)
    have hexpr : ∀ e ∈ condition, Prints lax (layer · e.layer) e.print e :=
      fun e he => of_expr (hcondition e he) (hc.2 e he)
    simp only [Statement.print, printAssignments_eq, Printed.depth_append, Nat.max_le] at hd
    simpa [Statement.print, printAssignments_eq] using
      Phrase.update table (commaList hne hassign depth hd.2.1) (clause .where hexpr depth hd.2.2)
  | @delete condition table hcondition =>
    have hexpr : ∀ e ∈ condition, Prints lax (layer · e.layer) e.print e :=
      fun e he => of_expr (hcondition e he) (hc e (Option.mem_toList.mpr he))
    simp only [Statement.print, Printed.depth_append, Nat.max_le] at hd
    exact .delete table (clause .where hexpr depth hd.2)
  | createTable table hne =>
    simpa [Statement.print] using Phrase.createTable table (columnDefs hne)

end Prints

end SqlSyntax
