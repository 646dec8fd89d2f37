import SqlSyntax.Proofs.Accepting.Boundary
import SqlSyntax.Proofs.Depth.Basic
import SqlSyntax.Proofs.Grammar.Statement

/-!
# Phrases are as shallow as their level of nesting

Brackets in which an expression or a query stands lead to the next level, and so does a query
to its expressions. A query in brackets takes two levels, then: its own, and one for the
expression that it stands in.
-/
namespace SqlSyntax

/-- The phrases have their brackets in pairs, at most so many inside one another, and the
depth of their values is bounded. -/
def Shallow (brackets bound : Nat) (L : Language α) (depth : α → Nat) : Prop :=
  ∀ ⦃u a⦄, L u a → Paired brackets u ∧ depth a ≤ bound

structure Grammar.Inner.Shallow (brackets bound : Nat) (g : Inner) : Prop where
  expr : SqlSyntax.Shallow brackets bound g.expr Expr.queryDepth
  select : SqlSyntax.Shallow brackets bound g.select Select.queryDepth

namespace Shallow

open Grammar

variable {α : Type} {L : Language α} {depth : α → Nat} {n m : Nat} {g : Inner}

protected theorem mono {n' m' : Nat} (h : Shallow n m L depth) (hn : n ≤ n') (hm : m ≤ m') :
    Shallow n' m' L depth := fun _ _ hu =>
  ⟨(h hu).1.mono hn, Nat.le_trans (h hu).2 hm⟩

/-! ## Lists and chains -/

theorem commaList (h : ∀ ⦃u a⦄, L u a → Paired n u ∧ depth a ≤ m) {u : List TokenKind}
    {as : List α} (hu : CommaList L u as) : Paired n u ∧ ∀ a ∈ as, depth a ≤ m := by
  induction hu with
  | one ha => simpa using h ha
  | cons ha _ ih =>
    obtain ⟨hu, ha⟩ := h ha
    obtain ⟨hv, has⟩ := ih
    exact ⟨hu.append (by simpa using hv), List.forall_mem_cons.mpr ⟨ha, has⟩⟩

/-- A keyword that may be left out. -/
theorem flag {k : Keyword} {u : List TokenKind} {flag : Bool} (hu : Flag (.keyword k) u flag) :
    Paired n u := by
  cases hu <;> simp

/-- A kind that goes on from an expression is no bracket. -/
theorem goesOn {kind : TokenKind} {k : Nat} {u : List TokenKind} (h : kind.binding = k + 1)
    (hu : Paired n u) : Paired n (kind :: u) := by
  refine .other ?_ ?_ hu <;> (rintro rfl; cases h)

theorem leftChain {L : Language Expr} {sign : TokenKind → Option Operator}
    {k : Nat} (hsign : ∀ {kind operator}, sign kind = some operator → kind.binding = k + 1)
    (h : Shallow n m L Expr.queryDepth) : Shallow n m (LeftChain sign L) Expr.queryDepth := by
  intro u e hu
  induction hu with
  | single hu => exact h hu
  | step _ hk hv ih =>
    obtain ⟨hu, he⟩ := ih
    obtain ⟨hv, hf⟩ := h hv
    exact ⟨hu.append (goesOn (hsign hk) hv), Nat.max_le.mpr ⟨he, hf⟩⟩

theorem rightChain {L : Language Expr} {keyword : Keyword} {operator : Operator}
    (h : Shallow n m L Expr.queryDepth) :
    Shallow n m (RightChain keyword operator L) Expr.queryDepth := by
  intro u e hu
  induction hu with
  | single hu => exact h hu
  | step hu _ ih =>
    obtain ⟨hu, he⟩ := h hu
    obtain ⟨hv, hf⟩ := ih
    exact ⟨hu.append (by simpa using hv), Nat.max_le.mpr ⟨he, hf⟩⟩

/-! ## Expressions -/

section Expressions

variable (hg : g.Shallow n m)
include hg

theorem argument : Shallow n m (Argument g) Expr.queryDepth := by
  intro u e hu
  cases hu with
  | star => simp
  | expr hu => exact hg.expr hu

theorem bracketed : Shallow n m (Bracketed g) Expr.queryDepth := by
  intro u e hu
  cases hu with
  | expr hu => exact hg.expr hu
  | subquery hu => exact hg.select hu

/-- The only expressions with brackets of their own, beside a list or a query after `IN`. -/
theorem primary : Shallow (n + 1) m (Primary g) Expr.queryDepth := by
  intro u e hu
  cases hu with
  | literal | star | identifier | qualified | qualifiedStar => simp
  | aggregate function hu hv =>
    obtain ⟨hv, he⟩ := argument hg hv
    have hbrackets := ((flag hu).append hv).brackets
    rw [List.append_assoc] at hbrackets
    exact ⟨.other nofun nofun hbrackets, he⟩
  | brackets hu =>
    obtain ⟨hu, he⟩ := bracketed hg hu
    exact ⟨hu.brackets, he⟩

omit hg in
theorem queryDepth_opposite (e : Expr) : e.opposite.queryDepth = e.queryDepth := by
  unfold Expr.opposite
  split
  · split <;> rfl
  · rfl
  · rfl

theorem signed : Shallow (n + 1) m (Signed g) Expr.queryDepth := by
  intro u e hu
  replace hu := hu.row
  induction hu with
  | primary hu => exact primary hg hu
  | plus _ ih | minus _ ih => simp [ih]
  | opposite _ ih => simp [ih, queryDepth_opposite]

theorem product : Shallow (n + 1) m (Product g) Expr.queryDepth :=
  leftChain binding_of_multiplicative? (signed hg)

theorem sum : Shallow (n + 1) m (Grammar.Sum g) Expr.queryDepth :=
  leftChain binding_of_additive? (product hg)

theorem nullTest : Shallow (n + 1) m (NullTest g) Expr.queryDepth := by
  intro u e hu
  cases hu with
  | sum hu => exact sum hg hu
  | isNull hu hv =>
    obtain ⟨hu, he⟩ := sum hg hu
    have hv : Paired (n + 1) _ := (flag hv).append (v := [.literal .null]) (by simp)
    exact ⟨hu.append (by simpa using hv), he⟩

theorem members {operand : Expr} (ho : operand.queryDepth ≤ m) (negated : Bool) :
    Shallow n m (Members g operand negated) Expr.queryDepth := by
  intro u e hu
  cases hu with
  | list hu => simpa [ho, Nat.max_le] using commaList hg.expr hu
  | subquery hu => simpa [ho, Nat.max_le] using hg.select hu

theorem predicate : Shallow (n + 1) m (Predicate g) Expr.queryDepth := by
  intro u e hu
  cases hu with
  | nullTest hu => exact nullTest hg hu
  | comparison hu hk hv =>
    obtain ⟨hu, he⟩ := nullTest hg hu
    obtain ⟨hv, hf⟩ := nullTest hg hv
    exact ⟨hu.append (goesOn (binding_of_comparison? hk) hv), Nat.max_le.mpr ⟨he, hf⟩⟩
  | notLike hu hv =>
    obtain ⟨hu, he⟩ := nullTest hg hu
    obtain ⟨hv, hf⟩ := nullTest hg hv
    exact ⟨hu.append (by simpa using hv), Nat.max_le.mpr ⟨he, hf⟩⟩
  | membership hu hv hw =>
    obtain ⟨hu, he⟩ := nullTest hg hu
    obtain ⟨hw, hf⟩ := members hg he _ hw
    exact ⟨hu.append ((flag hv).append (.other nofun nofun hw.brackets)), hf⟩
  | range hu hv hw hx =>
    obtain ⟨hu, he⟩ := nullTest hg hu
    obtain ⟨hw, hlow⟩ := nullTest hg hw
    obtain ⟨hx, hhigh⟩ := nullTest hg hx
    have hbounds := hw.append (v := .keyword .and :: _) (by simpa using hx)
    exact ⟨hu.append ((flag hv).append (by simpa using hbounds)),
      Nat.max_le.mpr ⟨he, Nat.max_le.mpr ⟨hlow, hhigh⟩⟩⟩

theorem negation : Shallow (n + 1) m (Negation g) Expr.queryDepth := by
  intro u e hu
  replace hu := hu.row
  induction hu with
  | predicate hu => exact predicate hg hu
  | word _ ih | not _ ih => simp [ih]

theorem disjunction : Shallow (n + 1) m (Disjunction g) Expr.queryDepth :=
  rightChain (rightChain (negation hg))

end Expressions

/-! ## Queries -/

theorem label {u : List TokenKind} {label : Option String} (hu : Label u label) :
    Paired n u := by
  cases hu <;> simp

theorem table : Shallow n m Table TableRef.queryDepth := by
  intro u t hu
  cases hu with
  | mk name hu => simp [label (n := n) hu]

theorem joinWords {u : List TokenKind} {type : JoinType} (hu : JoinWords u type) :
    Paired n u := by
  cases hu with
  | plain | inner | cross => simp
  | left hv | right hv | full hv => simpa using (flag hv).append (v := [.keyword .join]) (by simp)

/-- What a join adds to the table on its left. -/
theorem join (he : Shallow n m g.expr Expr.queryDepth) {lax bare : Bool} {u : List TokenKind}
    {j : JoinType × TableRef × Expr} (hu : Join lax g bare u j) :
    Paired n u ∧ j.2.1.queryDepth ≤ m ∧ j.2.2.queryDepth ≤ m := by
  cases hu with
  | cross hu hv | bare _ hu _ hv =>
    obtain ⟨hv, hright⟩ := table hv
    exact ⟨(joinWords hu).append hv, hright, Nat.zero_le m⟩
  | on hu _ hv hw =>
    obtain ⟨hv, hright⟩ := table hv
    obtain ⟨hw, hc⟩ := he hw
    exact ⟨(joinWords hu).append (hv.append (by simpa using hw)), hright, hc⟩

theorem joins (he : Shallow n m g.expr Expr.queryDepth) {lax : Bool} {left : TableRef}
    (hl : left.queryDepth ≤ m) : Shallow n m (Joins lax g left) TableRef.queryDepth := by
  intro u t hu
  induction hu with
  | done => exact ⟨.nil, hl⟩
  | step hu _ _ ih =>
    obtain ⟨hu, hright, hc⟩ := join he hu
    obtain ⟨hv, ht⟩ := ih (Nat.max_le.mpr ⟨hl, Nat.max_le.mpr ⟨hright, hc⟩⟩)
    exact ⟨hu.append hv, ht⟩

theorem source (he : Shallow n m g.expr Expr.queryDepth) {lax : Bool} :
    Shallow n m (Source lax g) TableRef.queryDepth := by
  intro u t hu
  cases hu with
  | mk hu hv =>
    obtain ⟨hu, hfirst⟩ := table hu
    obtain ⟨hv, ht⟩ := joins he hfirst hv
    exact ⟨hu.append hv, ht⟩

theorem item (he : Shallow n m g.expr Expr.queryDepth) :
    Shallow n m (Item g) SelectItem.queryDepth := by
  intro u i hu
  cases hu with
  | star => simp
  | expr hu _ hv =>
    obtain ⟨hu, he⟩ := he hu
    exact ⟨hu.append (label hv), he⟩

theorem orderEntry (he : Shallow n m g.expr Expr.queryDepth) :
    Shallow n m (OrderEntry g) OrderBy.queryDepth := by
  intro u entry hu
  cases hu with
  | mk hu hv =>
    obtain ⟨hu, he⟩ := he hu
    exact ⟨hu.append (by cases hv <;> simp), he⟩

theorem distinctClause {u : List TokenKind} {distinct : Bool} (hu : DistinctClause u distinct) :
    Paired n u := by
  cases hu <;> simp

theorem rowCount : Shallow n m RowCount fun _ => 0 := by
  intro u count hu
  cases hu with
  | mk => simp

theorem clause (h : Shallow n m L depth) (keyword : Keyword) :
    Shallow n m (Clause keyword L) fun x => x.elim 0 depth := by
  intro u x hu
  cases hu with
  | absent => simp
  | present hu => simpa using h hu

theorem byClause (h : Shallow n m L depth) (keyword : Keyword) {u : List TokenKind}
    {as : List α} (hu : ByClause keyword L u as) : Paired n u ∧ ∀ a ∈ as, depth a ≤ m := by
  cases hu with
  | absent => simp
  | present hu => simpa using commaList h hu

theorem query (he : Shallow n m g.expr Expr.queryDepth) {lax : Bool} :
    Shallow n (m + 1) (Query lax g) Select.queryDepth := by
  intro u q hu
  cases hu with
  | mk h₁ h₂ h₃ h₄ h₅ h₆ h₇ h₈ h₉ =>
    have p₁ : Paired n _ := distinctClause h₁
    obtain ⟨p₂, hcolumns⟩ := commaList (item he) h₂
    obtain ⟨p₃, hsource⟩ := clause (source he) .from h₃
    obtain ⟨p₄, hcondition⟩ := clause he .where h₄
    obtain ⟨p₅, hgroupBy⟩ := byClause he .group h₅
    obtain ⟨p₆, hhaving⟩ := clause he .having h₆
    obtain ⟨p₇, horderBy⟩ := byClause (orderEntry he) .order h₇
    obtain ⟨p₈, -⟩ := clause (rowCount (n := n) (m := m)) .limit h₈
    obtain ⟨p₉, -⟩ := clause (rowCount (n := n) (m := m)) .offset h₉
    have hclauses := p₁.append (p₂.append (p₃.append (p₄.append (p₅.append (p₆.append
      (p₇.append (p₈.append p₉)))))))
    refine ⟨by simpa using hclauses, ?_⟩
    simpa [Nat.max_le] using ⟨hcolumns, hsource, hcondition, hgroupBy, hhaving, horderBy⟩

/-- Each second level can hold one more query. -/
theorem upTo (lax : Bool) (d : Nat) :
    Shallow d (d / 2) (upTo lax d).expr Expr.queryDepth ∧
      Shallow d ((d + 1) / 2) (upTo lax d).select Select.queryDepth := by
  induction d with
  | zero => exact ⟨nofun, nofun⟩
  | succ d ih =>
    obtain ⟨hexpr, hselect⟩ := ih
    have hhalf : d / 2 + 1 = (d + 1 + 1) / 2 := (Nat.add_div_right d Nat.two_pos).symm
    refine ⟨disjunction ⟨hexpr.mono (Nat.le_refl d) ?_, hselect⟩, ?_⟩
    · exact Nat.div_le_div_right (Nat.le_succ d)
    · rw [← hhalf]
      exact (query hexpr).mono (Nat.le_succ d) (Nat.le_refl _)

/-! ## Statements -/

theorem columns {u : List TokenKind} {names : List String} (hu : Columns u names) :
    Paired (n + 1) u := by
  cases hu with
  | absent => simp
  | present hu =>
    have hname : Shallow n 0 Name fun _ => 0 := by
      rintro _ _ ⟨⟩
      simp
    exact (commaList hname hu).1.brackets

theorem row (he : Shallow n m g.expr Expr.queryDepth) :
    Shallow (n + 1) m (Row g) exprQueryDepth := by
  rintro _ row ⟨hu⟩
  obtain ⟨hu, hes⟩ := commaList he hu
  exact ⟨hu.brackets, (exprQueryDepth_le_iff row m).mpr hes⟩

theorem assign (he : Shallow n m g.expr Expr.queryDepth) :
    Shallow n m (Assign g) Assignment.queryDepth := by
  rintro _ _ ⟨column, hu⟩
  simpa using he hu

theorem typeArguments {u : List TokenKind} {text : String} (hu : TypeArguments u text) :
    Paired (n + 1) u := by
  cases hu with
  | absent => simp
  | one k => exact Paired.brackets (u := [_]) (by simp)
  | two k l => exact Paired.brackets (u := [_, _, _]) (by simp)

theorem constraints {u : List TokenKind} {texts : List String} (hu : Constraints u texts) :
    Paired n u := by
  induction hu with
  | done => simp
  | primaryKey _ _ _ ih | notNull _ ih => simpa using ih

theorem column : Shallow (n + 1) 0 Column fun _ => 0 := by
  rintro _ _ ⟨name, typeName, hu, hv⟩
  exact ⟨by simpa using (typeArguments hu).append (constraints hv), Nat.le_refl 0⟩

/-- The brackets around a row and around the columns of a new table are on no level. -/
theorem phrase {k : Nat} (he : Shallow n m g.expr Expr.queryDepth)
    (hq : Shallow n k g.select Select.queryDepth) (hmk : m ≤ k) :
    Shallow (max 2 (n + 1)) k (Phrase g) Statement.queryDepth := by
  have hlevel : n ≤ max 2 (n + 1) := Nat.le_trans (Nat.le_succ n) (Nat.le_max_right 2 _)
  have hexpr : Shallow (max 2 (n + 1)) k g.expr Expr.queryDepth := he.mono hlevel hmk
  intro u s hu
  cases hu with
  | select hu => exact hq.mono hlevel (Nat.le_refl k) hu
  | insert table hu hv =>
    obtain ⟨hv, hrows⟩ := commaList ((row he).mono (Nat.le_max_right 2 _) hmk) hv
    have hcolumns : Paired (max 2 (n + 1)) _ := (columns (n := 0) hu).mono (by omega)
    have hu := hcolumns.append (v := .keyword .values :: _) (by simpa using hv)
    exact ⟨by simpa using hu, (rowQueryDepth_le_iff _ k).mpr hrows⟩
  | update table hu hv =>
    obtain ⟨hu, has⟩ := commaList (assign hexpr) hu
    obtain ⟨hv, hc⟩ := clause hexpr .where hv
    exact ⟨by simpa using hu.append hv, by simpa [Nat.max_le] using ⟨has, hc⟩⟩
  | delete table hu => simpa using clause hexpr .where hu
  | createTable table hu =>
    have hcolumns := (commaList (column (n := 0)) hu).1.brackets.mono (Nat.le_max_left 2 (n + 1))
    exact ⟨by simpa using hcolumns, Nat.zero_le k⟩

theorem sole (lax : Bool) (d : Nat) :
    Shallow (max 2 (d + 1)) ((d + 1) / 2) (Sole lax d) Statement.queryDepth := by
  obtain ⟨hexpr, hselect⟩ := upTo lax d
  have hphrase := phrase hexpr hselect (Nat.div_le_div_right (Nat.le_succ d))
  intro u s hu
  cases hu with
  | plain hu => exact hphrase hu
  | semicolon hu => exact ⟨(hphrase hu).1.append (by simp), (hphrase hu).2⟩

end Shallow

end SqlSyntax
