import SqlSyntax.Proofs.Accepting.Boundary
import SqlSyntax.Proofs.Signs.Opposite

/-!
# Phrases stand for well-formed trees

Each language of the grammar keeps what the languages that it is made of promise of their
values and of their tokens.
-/
namespace SqlSyntax

/-- The kinds that no phrase has: operators that are words only as keywords, and the end. -/
def TokenKind.isStray : TokenKind → Bool
  | .operator .and | .operator .or | .operator .like | .endOfInput => true
  | _ => false

namespace TokenKind

@[simp] theorem isStray_keyword (k : Keyword) : (keyword k).isStray = false := rfl
@[simp] theorem isStray_identifier (name : String) : (identifier name).isStray = false := rfl
@[simp] theorem isStray_literal (value : Literal) : (literal value).isStray = false := rfl
@[simp] theorem isStray_plus : (operator .plus).isStray = false := rfl
@[simp] theorem isStray_minus : (operator .minus).isStray = false := rfl
@[simp] theorem isStray_equals : (operator .equals).isStray = false := rfl
@[simp] theorem isStray_leftParen : leftParen.isStray = false := rfl
@[simp] theorem isStray_rightParen : rightParen.isStray = false := rfl
@[simp] theorem isStray_comma : comma.isStray = false := rfl
@[simp] theorem isStray_semicolon : semicolon.isStray = false := rfl
@[simp] theorem isStray_star : star.isStray = false := rfl
@[simp] theorem isStray_dot : dot.isStray = false := rfl

end TokenKind

def Clean (u : List TokenKind) : Prop := ∀ kind ∈ u, kind.isStray = false

@[simp] theorem clean_nil : Clean [] := nofun
@[simp] theorem clean_cons (kind : TokenKind) (u : List TokenKind) :
    Clean (kind :: u) ↔ kind.isStray = false ∧ Clean u := List.forall_mem_cons
@[simp] theorem clean_append (u v : List TokenKind) : Clean (u ++ v) ↔ Clean u ∧ Clean v :=
  List.forall_mem_append

/-- The phrases have no stray kinds and stand for values with the property. -/
def Yields (L : Language α) (P : α → Prop) : Prop := ∀ ⦃u a⦄, L u a → Clean u ∧ P a

structure Grammar.Inner.WellFormed (g : Inner) : Prop where
  expr : Yields g.expr Expr.WellFormed
  select : Yields g.select Select.WellFormed

namespace Yields

open Grammar

variable {α : Type} {L : Language α} {P : α → Prop} {g : Inner}

/-! ## Lists and chains -/

theorem commaList (h : Yields L P) :
    Yields (CommaList L) fun as => as ≠ [] ∧ ∀ a ∈ as, P a := by
  intro u as hu
  induction hu with
  | one ha => simpa using h ha
  | cons ha _ ih =>
    obtain ⟨hu, hP⟩ := h ha
    simpa [hu, hP] using ⟨ih.1, ih.2.2⟩

theorem flag {kind : TokenKind} (hk : kind.isStray = false) :
    Yields (Flag kind) fun _ => True := by
  intro u flag hu
  cases hu with
  | absent => simp
  | present => simpa using hk

theorem leftChain {L : Language Expr} {sign : TokenKind → Option Operator}
    (hsign : ∀ {kind operator}, sign kind = some operator → kind.isStray = false)
    (h : Yields L Expr.WellFormed) : Yields (LeftChain sign L) Expr.WellFormed := by
  intro u e hu
  induction hu with
  | single hu => exact h hu
  | step _ hk hv ih =>
    obtain ⟨hu, he⟩ := ih
    obtain ⟨hv, hf⟩ := h hv
    exact ⟨by simp [hu, hsign hk, hv], .binary _ he hf⟩

theorem rightChain {L : Language Expr} {keyword : Keyword} {operator : Operator}
    (h : Yields L Expr.WellFormed) :
    Yields (RightChain keyword operator L) Expr.WellFormed := by
  intro u e hu
  induction hu with
  | single hu => exact h hu
  | step hu _ ih =>
    obtain ⟨hu, he⟩ := h hu
    obtain ⟨hv, hf⟩ := ih
    exact ⟨by simp [hu, hv], .binary _ he hf⟩

/-! ## Expressions -/

theorem argument (hg : g.WellFormed) : Yields (Argument g) Expr.WellFormed := by
  intro u e hu
  cases hu with
  | star => exact ⟨by simp, .star⟩
  | expr hu => exact hg.expr hu

theorem bracketed (hg : g.WellFormed) : Yields (Bracketed g) Expr.WellFormed := by
  intro u e hu
  cases hu with
  | expr hu => exact hg.expr hu
  | subquery hu => exact ⟨(hg.select hu).1, .subquery (hg.select hu).2⟩

theorem primary (hg : g.WellFormed) : Yields (Primary g) Expr.WellFormed := by
  intro u e hu
  cases hu with
  | literal value => exact ⟨by simp, .literal value⟩
  | star => exact ⟨by simp, .star⟩
  | identifier name => exact ⟨by simp, .identifier name⟩
  | qualified table name => exact ⟨by simp, .qualified table name⟩
  | qualifiedStar table => exact ⟨by simp, .qualifiedStar table⟩
  | aggregate function hu hv =>
    obtain ⟨hv, he⟩ := argument hg hv
    exact ⟨by simp [flag rfl hu, hv], .aggregate function _ he⟩
  | brackets hu =>
    obtain ⟨hu, he⟩ := bracketed hg hu
    exact ⟨by simp [hu], he⟩

/-- A minus that is put before an expression is taken into a number if it can be. -/
theorem wellFormed_opposite {e : Expr} (h : e.WellFormed) : e.opposite.WellFormed := by
  obtain hkeeps | ⟨n, hn, rfl⟩ | ⟨x, rfl⟩ := e.keepsSign_or
  · rw [Expr.opposite_of_keepsSign hkeeps]
    exact .negate h hkeeps
  · rw [Expr.opposite_integer hn]
    exact .literal _
  · exact .literal _

theorem signed (hg : g.WellFormed) : Yields (Signed g) Expr.WellFormed := by
  intro u e hu
  replace hu := hu.row
  induction hu with
  | primary hu => exact primary hg hu
  | plus _ ih | minus _ ih => exact ⟨by simp [ih.1], ih.2⟩
  | opposite _ ih => exact ⟨ih.1, wellFormed_opposite ih.2⟩

/-- A kind that goes on from an expression is no stray one. -/
theorem isStray_of_binding {kind : TokenKind} {n : Nat} (h : kind.binding = n + 1) :
    kind.isStray = false := by
  unfold TokenKind.isStray
  split
  · cases h
  · cases h
  · cases h
  · cases h
  · rfl

theorem product (hg : g.WellFormed) : Yields (Product g) Expr.WellFormed :=
  leftChain (fun hk => isStray_of_binding (binding_of_multiplicative? hk)) (signed hg)

theorem sum (hg : g.WellFormed) : Yields (Grammar.Sum g) Expr.WellFormed :=
  leftChain (fun hk => isStray_of_binding (binding_of_additive? hk)) (product hg)

theorem nullTest (hg : g.WellFormed) : Yields (NullTest g) Expr.WellFormed := by
  intro u e hu
  cases hu with
  | sum hu => exact sum hg hu
  | isNull hu hv =>
    obtain ⟨hu, he⟩ := sum hg hu
    exact ⟨by simp [hu, flag rfl hv], .isNull _ he⟩

theorem members (hg : g.WellFormed) {operand : Expr} (ho : operand.WellFormed)
    (negated : Bool) : Yields (Members g operand negated) Expr.WellFormed := by
  intro u e hu
  cases hu with
  | list hu =>
    obtain ⟨hu, hne, hes⟩ := commaList hg.expr hu
    exact ⟨hu, .inList negated ho hne hes⟩
  | subquery hu => exact ⟨(hg.select hu).1, .inSubquery negated ho (hg.select hu).2⟩

theorem predicate (hg : g.WellFormed) : Yields (Predicate g) Expr.WellFormed := by
  intro u e hu
  cases hu with
  | nullTest hu => exact nullTest hg hu
  | comparison hu hk hv =>
    obtain ⟨hu, he⟩ := nullTest hg hu
    obtain ⟨hv, hf⟩ := nullTest hg hv
    have hkind : _ = false := isStray_of_binding (binding_of_comparison? hk)
    exact ⟨by simp [hu, hkind, hv], .binary _ he hf⟩
  | notLike hu hv =>
    obtain ⟨hu, he⟩ := nullTest hg hu
    obtain ⟨hv, hf⟩ := nullTest hg hv
    exact ⟨by simp [hu, hv], .not (.binary _ he hf)⟩
  | membership hu hv hw =>
    obtain ⟨hu, he⟩ := nullTest hg hu
    obtain ⟨hw, hf⟩ := members hg he _ hw
    exact ⟨by simp [hu, flag rfl hv, hw], hf⟩
  | range hu hv hw hx =>
    obtain ⟨hu, he⟩ := nullTest hg hu
    obtain ⟨hw, hlow⟩ := nullTest hg hw
    obtain ⟨hx, hhigh⟩ := nullTest hg hx
    exact ⟨by simp [hu, flag rfl hv, hw, hx], .between _ he hlow hhigh⟩

theorem negation (hg : g.WellFormed) : Yields (Negation g) Expr.WellFormed := by
  intro u e hu
  replace hu := hu.row
  induction hu with
  | predicate hu => exact predicate hg hu
  | word _ ih => exact ⟨by simp [ih.1], ih.2⟩
  | not _ ih => exact ⟨ih.1, .not ih.2⟩

theorem disjunction (hg : g.WellFormed) : Yields (Disjunction g) Expr.WellFormed :=
  rightChain (rightChain (negation hg))

/-! ## Queries -/

theorem label : Yields Label fun _ => True := by
  intro u label hu
  cases hu <;> simp

theorem table : Yields Table fun t => ∃ name label, t = .table name label := by
  intro u t hu
  cases hu with
  | mk name hu => exact ⟨by simp [(label hu).1], _, _, rfl⟩

theorem joinWords : Yields JoinWords fun _ => True := by
  intro u type hu
  cases hu with
  | plain | inner | cross => simp
  | left hv | right hv | full hv => simp [(flag rfl hv).1]

/-- What a join adds to the table on its left. -/
theorem join (hg : g.WellFormed) {lax bare : Bool} :
    Yields (Join lax g bare) fun j =>
      (∃ name label, j.2.1 = .table name label) ∧ j.2.2.WellFormed ∧
        (j.1 = .cross → j.2.2 = .boolean true) := by
  intro u j hu
  cases hu with
  | cross hu hv =>
    exact ⟨by simp [(joinWords hu).1, (table hv).1], (table hv).2, .literal _, fun _ => rfl⟩
  | on hu ht hv hw =>
    obtain ⟨hw, hc⟩ := hg.expr hw
    exact ⟨by simp [(joinWords hu).1, (table hv).1, hw], (table hv).2, hc,
      fun h => absurd h ht⟩
  | bare _ hu _ hv =>
    exact ⟨by simp [(joinWords hu).1, (table hv).1], (table hv).2, .literal _, fun _ => rfl⟩

theorem joins (hg : g.WellFormed) {lax : Bool} {left : TableRef} (hl : left.WellFormed) :
    Yields (Joins lax g left) TableRef.WellFormed := by
  intro u t hu
  induction hu with
  | done => exact ⟨clean_nil, hl⟩
  | step hu _ _ ih =>
    obtain ⟨hclean, ⟨name, label, rfl⟩, hc, hcross⟩ := join hg hu
    obtain ⟨hv, ht⟩ := ih (.join name label hl hc hcross)
    exact ⟨by simp [hclean, hv], ht⟩

theorem source (hg : g.WellFormed) {lax : Bool} :
    Yields (Source lax g) TableRef.WellFormed := by
  intro u t hu
  cases hu with
  | mk hu hv =>
    obtain ⟨hclean, name, label, rfl⟩ := table hu
    obtain ⟨hv, ht⟩ := joins hg (.table name label) hv
    exact ⟨by simp [hclean, hv], ht⟩

theorem item (hg : g.WellFormed) : Yields (Item g) SelectItem.WellFormed := by
  intro u i hu
  cases hu with
  | star => exact ⟨by simp, .allColumns⟩
  | expr hu _ hv =>
    obtain ⟨hu, he⟩ := hg.expr hu
    exact ⟨by simp [hu, (label hv).1], .projected _ he⟩

theorem orderEntry (hg : g.WellFormed) : Yields (OrderEntry g) OrderBy.WellFormed := by
  intro u entry hu
  cases hu with
  | mk hu hv =>
    obtain ⟨hu, he⟩ := hg.expr hu
    refine ⟨?_, .mk _ he⟩
    cases hv <;> simp [hu]

theorem rowCount : Yields RowCount fun n => n ≤ maxRowCount := by
  intro u count hu
  cases hu with
  | mk n hn =>
    refine ⟨by simp, ?_⟩
    have h := n.toInt_lt
    unfold maxRowCount
    omega

theorem clause (h : Yields L P) (keyword : Keyword) :
    Yields (Clause keyword L) fun x => ∀ a ∈ x, P a := by
  intro u x hu
  cases hu with
  | absent => exact ⟨clean_nil, nofun⟩
  | present hu => simpa using h hu

theorem byClause (h : Yields L P) (keyword : Keyword) :
    Yields (ByClause keyword L) fun as => ∀ a ∈ as, P a := by
  intro u as hu
  cases hu with
  | absent => exact ⟨clean_nil, nofun⟩
  | present hu =>
    obtain ⟨hu, -, has⟩ := commaList h hu
    exact ⟨by simp [hu], has⟩

theorem distinctClause : Yields DistinctClause fun _ => True := by
  intro u distinct hu
  cases hu <;> simp

theorem query (hg : g.WellFormed) {lax : Bool} : Yields (Query lax g) Select.WellFormed := by
  intro u q hu
  cases hu with
  | mk h₁ h₂ h₃ h₄ h₅ h₆ h₇ h₈ h₉ =>
    obtain ⟨c₁, -⟩ := distinctClause h₁
    obtain ⟨c₂, hne, hcolumns⟩ := commaList (item hg) h₂
    obtain ⟨c₃, hsource⟩ := clause (source hg) .from h₃
    obtain ⟨c₄, hcondition⟩ := clause hg.expr .where h₄
    obtain ⟨c₅, hgroupBy⟩ := byClause hg.expr .group h₅
    obtain ⟨c₆, hhaving⟩ := clause hg.expr .having h₆
    obtain ⟨c₇, horderBy⟩ := byClause (orderEntry hg) .order h₇
    obtain ⟨c₈, hlimit⟩ := clause rowCount .limit h₈
    obtain ⟨c₉, hoffset⟩ := clause rowCount .offset h₉
    exact ⟨by simp [c₁, c₂, c₃, c₄, c₅, c₆, c₇, c₈, c₉],
      .mk hne hcolumns hsource hcondition hgroupBy hhaving horderBy hlimit hoffset⟩

theorem upTo (lax : Bool) (depth : Nat) : (upTo lax depth).WellFormed := by
  induction depth with
  | zero => exact ⟨nofun, nofun⟩
  | succ depth ih => exact ⟨disjunction ih, query ih⟩

/-! ## Statements -/

theorem name : Yields Name fun _ => True := by
  rintro _ _ ⟨⟩
  simp

theorem columns : Yields Columns fun _ => True := by
  intro u names hu
  cases hu with
  | absent => simp
  | present hu => simp [(commaList name hu).1]

theorem row (hg : g.WellFormed) :
    Yields (Row g) fun row => row ≠ [] ∧ ∀ e ∈ row, e.WellFormed := by
  rintro _ row ⟨hu⟩
  obtain ⟨hu, hrow⟩ := commaList hg.expr hu
  exact ⟨by simp [hu], hrow⟩

theorem assign (hg : g.WellFormed) : Yields (Assign g) Assignment.WellFormed := by
  rintro _ _ ⟨column, hu⟩
  obtain ⟨hu, he⟩ := hg.expr hu
  exact ⟨by simp [hu], .mk column he⟩

theorem typeArguments : Yields TypeArguments fun _ => True := by
  intro u text hu
  cases hu <;> simp

theorem constraints : Yields Constraints fun _ => True := by
  intro u texts hu
  induction hu with
  | done => simp
  | primaryKey _ _ _ ih | notNull _ ih => simpa using ih

theorem column : Yields Column fun _ => True := by
  rintro _ _ ⟨name, typeName, hu, hv⟩
  simp [(typeArguments hu).1, (constraints hv).1]

theorem phrase (hg : g.WellFormed) : Yields (Phrase g) Statement.WellFormed := by
  intro u s hu
  cases hu with
  | select hu => exact ⟨(hg.select hu).1, .select (hg.select hu).2⟩
  | insert table hu hv hwidth =>
    obtain ⟨hv, hne, hrows⟩ := commaList (row hg) hv
    exact ⟨by simp [(columns hu).1, hv], .insert table hne hrows hwidth⟩
  | update table hu hv =>
    obtain ⟨hu, hne, has⟩ := commaList (assign hg) hu
    obtain ⟨hv, hc⟩ := clause hg.expr .where hv
    exact ⟨by simp [hu, hv], .update table hne has hc⟩
  | delete table hu =>
    obtain ⟨hu, hc⟩ := clause hg.expr .where hu
    exact ⟨by simp [hu], .delete table hc⟩
  | createTable table hu =>
    obtain ⟨hu, hne, -⟩ := commaList column hu
    exact ⟨by simp [hu], .createTable table hne⟩

theorem sole (lax : Bool) (depth : Nat) : Yields (Sole lax depth) Statement.WellFormed := by
  intro u s hu
  cases hu with
  | plain hu => exact phrase (upTo lax depth) hu
  | semicolon hu =>
    obtain ⟨hu, hs⟩ := phrase (upTo lax depth) hu
    exact ⟨by simp [hu], hs⟩

end Yields

end SqlSyntax
