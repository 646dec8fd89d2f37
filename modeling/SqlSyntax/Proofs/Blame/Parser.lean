import SqlSyntax.Proofs.Alike.Statement
import SqlSyntax.Proofs.Reading.Statement

/-!
# What a failure blames

A parser that fails stops at the kind that it blames, as something else is expected there or the
limit of nesting is met. The one exception is a row of an insertion that has not as many values as
columns are listed: the failure blames the row from its first kind on, but the row is consumed.
All rows before it have the right width.
-/
namespace SqlSyntax

open SqlSyntax.Parser Grammar

/-! ## The next kind -/

/-- The failure blames the kind where the parser stops: another one is expected there, or the
limit of nesting is met. -/
def BlamesNext (limit : Nat) (f : Failure) : Prop :=
  f.rest = f.blamed ∧
    ((∃ expected, f.cause = .unexpected expected f.blamed) ∨ f.cause = .tooDeep limit)

/-- Whenever the parser fails it blames the next kind. -/
def Blames (limit : Nat) (p : Parser α) : Prop :=
  ∀ kinds f, p.run kinds = .error f → BlamesNext limit f

namespace Blames

variable {α β : Type} {limit : Nat} {p : Parser α}

protected theorem pure (a : α) : Blames limit (pure a) := fun _ _ hr => nomatch hr

protected theorem bind {f : α → Parser β} (hp : Blames limit p) (hf : ∀ a, Blames limit (f a)) :
    Blames limit (p >>= f) := by
  intro kinds failure hr
  obtain hr | ⟨a, middle, -, hr⟩ := run_bind_eq_error_iff.mp hr
  · exact hp kinds failure hr
  · exact hf a middle failure hr

protected theorem unexpected (expected : Expectation) :
    Blames limit (unexpected expected : Parser α) := by
  intro kinds failure hr
  cases hr
  exact ⟨rfl, .inl ⟨expected, rfl⟩⟩

protected theorem refuse (limit : Nat) : Blames limit (refuse limit : Parser α) := by
  intro kinds failure hr
  cases hr
  exact ⟨rfl, .inr rfl⟩

protected theorem choose {f : TokenKind → Option (Parser α)} {otherwise : Parser α}
    (hf : ∀ kind p, f kind = some p → Blames limit p) (ho : Blames limit otherwise) :
    Blames limit (choose f otherwise) := by
  intro kinds failure hr
  cases kinds with
  | nil => exact ho [] failure hr
  | cons kind kinds =>
    rw [run_choose_cons] at hr
    cases hk : f kind with
    | none =>
      rw [hk] at hr
      exact ho _ failure hr
    | some p =>
      rw [hk] at hr
      exact hf kind p hk kinds failure hr

/-- A repetition fails where one of its rounds does. -/
protected theorem many {next : TokenKind → Option (Parser α)}
    (h : ∀ kind p, next kind = some p → Blames limit p) : Blames limit (many next) := by
  intro kinds failure hr
  change runMany next kinds = _ at hr
  fun_induction runMany next kinds with
  | case1 => cases hr
  | case2 => cases hr
  | case3 kind kinds p hp failure' hf =>
    cases hr
    exact h kind p hp kinds failure hf
  | case4 kind kinds p hp a rest ha _ failure' hf ih =>
    cases hr
    exact ih hf
  | case5 => cases hr

end Blames

/-- Parsers that are put together from parsers that blame the next kind blame it. -/
theorem Alike.blames {Base : ∀ {α : Type}, Parser α → Parser α → Prop} {limit : Nat}
    (hbase : ∀ {α : Type} {p q : Parser α}, Base p q → Blames limit p) {p q : Parser α}
    (h : Alike Base p q) : Blames limit p := by
  induction h with
  | base h => exact hbase h
  | pure a => exact .pure a
  | bind _ _ hp hf => exact hp.bind hf
  | unexpected => exact .unexpected _
  | peek _ _ h => exact fun kinds => h kinds.head? kinds
  | chooseOf _ hs _ _ hf ho => exact .choose (forall_of_isSome_eq hs hf) ho
  | manyOf _ hs _ hf => exact .many (forall_of_isSome_eq hs hf)

theorem Blames.of_alike {limit : Nat} {p : Parser α}
    (h : Alike (fun p _ => Blames limit p) p p) : Blames limit p := h.blames id

theorem nested_blames (o : ParserOptions) (left : Nat) :
    (nested o left).Alike (fun p _ => Blames o.maxDepth p) (nested o left) := by
  induction left with
  | zero => exact ⟨.base (.refuse _), .base (.refuse _)⟩
  | succ left ih =>
    have hexpr : Blames o.maxDepth (nest fun _ => disjunction (nested o left)) :=
      (Alike.disjunction (.predicate ih)).blames id
    have hselect : Blames o.maxDepth (nest fun _ => selectBody o (nested o left)) :=
      (Alike.selectBody (.tableRef rfl (.base (.unexpected _)) ih) ih).blames id
    exact ⟨.base hexpr, .base hselect⟩

/-! ## Rows -/

/-- A phrase before a given kind. -/
def Before (kind : TokenKind) (L : Language α) : Language α :=
  fun u a => ∃ v, u = v ++ [kind] ∧ L v a

theorem Grammar.Many.of_and {L : Language α} {P : α → Prop} {kind : TokenKind}
    {u : List TokenKind} {as : List α}
    (h : Many (Before kind fun v a => L v a ∧ P a) u as) :
    Many (Before kind L) u as ∧ ∀ a ∈ as, P a := by
  induction h with
  | nil => exact ⟨.nil, by simp⟩
  | cons ha _ ih =>
    obtain ⟨v, rfl, hv, hP⟩ := ha
    exact ⟨.cons ⟨v, rfl, hv⟩ ih.1, List.forall_mem_cons.mpr ⟨hP, ih.2⟩⟩

/-- An insertion up to its first row that has not as many values as columns are listed, and this
row. -/
inductive Misfit (g : Inner) : (before row : List TokenKind) → (values columns : Nat) → Prop
  | mk (table : String) : Columns u columns → Many (Before .comma (Row g)) v rows →
      (∀ row ∈ rows, row.length = columns.length) → Row g w values → columns ≠ [] →
      values.length ≠ columns.length →
      Misfit g
        (.keyword .insert :: .keyword .into :: .identifier table ::
          (u ++ .keyword .values :: v))
        w values.length columns.length

/-- The failure blames a row of the wrong width, which is consumed. -/
def BlamesRow (g : Inner) (kinds : List TokenKind) (f : Failure) : Prop :=
  ∃ before row values columns, kinds = before ++ (row ++ f.rest) ∧ f.blamed = row ++ f.rest ∧
    Misfit g before row values columns ∧ f.cause = .rowWidth values columns

section Rows

variable {α : Type} {limit : Nat} {n : Nested} {g : Inner} {kinds : List TokenKind} {f : Failure}

/-- A list with commas fails at one of its parts. What comes before this part is parts with a
comma after each. -/
theorem exists_of_commaList_error {p : Parser α} {L : Language α} (hp : Reads False p L)
    (h : (commaList p).run kinds = .error f) :
    ∃ v as rest, kinds = v ++ rest ∧ Many (Before .comma L) v as ∧ p.run rest = .error f := by
  have hothers : ∀ kinds, (many fun kind => if kind = .comma then some p else none).run kinds =
      .error f → ∃ v as rest, kinds = .comma :: (v ++ rest) ∧ Many (Before .comma L) v as ∧
        p.run rest = .error f := by
    intro kinds hr
    change runMany _ kinds = _ at hr
    fun_induction runMany _ kinds with
    | case1 => cases hr
    | case2 => cases hr
    | case3 kind kinds q hq failure hf =>
      cases hr
      obtain ⟨rfl, rfl⟩ := Option.ite_some_none_eq_some.mp hq
      exact ⟨[], [], kinds, rfl, .nil, hf⟩
    | case4 kind kinds q hq a rest ha _ failure hf ih =>
      cases hr
      obtain ⟨rfl, rfl⟩ := Option.ite_some_none_eq_some.mp hq
      obtain ⟨u, rfl, hu⟩ := hp.sound ha
      obtain ⟨v, as, last, rfl, hv, hlast⟩ := ih hf
      exact ⟨u ++ [.comma] ++ v, a :: as, last, by simp, .cons ⟨u, rfl, hu⟩ hv, hlast⟩
    | case5 => cases hr
  obtain hfirst | ⟨a, middle, ha, h⟩ := run_bind_eq_error_iff.mp h
  · exact ⟨[], [], kinds, rfl, .nil, hfirst⟩
  obtain hmore | ⟨as, last, -, h⟩ := run_bind_eq_error_iff.mp h
  · obtain ⟨u, rfl, hu⟩ := hp.sound ha
    obtain ⟨v, as, rest, rfl, hv, hrest⟩ := hothers middle hmore
    exact ⟨u ++ [.comma] ++ v, a :: as, rest, by simp, .cons ⟨u, rfl, hu⟩ hv, hrest⟩
  · cases h

/-- A row fails at one of its kinds, or it is read and has the wrong width. -/
theorem exists_of_row_error (hn : n.Reads False g) (hb : Blames limit n.expr) {columns : Nat}
    (h : (row n columns).run kinds = .error f) :
    BlamesNext limit f ∨ ∃ w values, kinds = w ++ f.rest ∧ f.blamed = kinds ∧ Row g w values ∧
      columns ≠ 0 ∧ values.length ≠ columns ∧ f.cause = .rowWidth values.length columns := by
  have hR := Reads.compositional False
  have hvalues : Blames limit (inParens (commaList n.expr)) :=
    .of_alike (.inParens (.commaList (.base hb)))
  simp only [row, validate] at h
  split at h
  · rename_i failure hf
    cases h
    exact .inl (hvalues kinds f hf)
  · rename_i values rest hok
    split at h
    · cases h
    · rename_i cause htest
      cases h
      right
      split at htest
      · cases htest
      · rename_i hwidth
        cases htest
        rw [Bool.or_eq_true, not_or, decide_eq_true_eq, decide_eq_true_eq] at hwidth
        obtain ⟨w, rfl, u, rfl, hu⟩ := (hR.inParens (hR.commaList hn.expr)).sound hok
        exact ⟨_, values, rfl, rfl, .mk hu, hwidth.1, hwidth.2, rfl⟩

theorem insert_blames (hn : n.Reads False g) (hb : Blames limit n.expr)
    (h : (insert n).run kinds = .error f) : BlamesNext limit f ∨ BlamesRow g kinds f := by
  have hR := Reads.compositional False
  have hexpect (kind : TokenKind) [kind.Asked] : Blames limit (expect kind) :=
    .of_alike (.expect kind)
  have hname : Blames limit identifier := .of_alike .identifier
  have hcolumns : Blames limit (after .leftParen
      (do
        let columns ← commaList identifier
        expect .rightParen
        return columns) []) :=
    .of_alike (.after .leftParen [] ((Alike.commaList .identifier).bind fun _ =>
      (Alike.expect .rightParen).bind fun _ => .pure _))
  obtain h | ⟨_, k₁, h₁, h⟩ := run_bind_eq_error_iff.mp h
  · exact .inl (hexpect _ _ _ h)
  obtain h | ⟨_, k₂, h₂, h⟩ := run_bind_eq_error_iff.mp h
  · exact .inl (hexpect _ _ _ h)
  obtain h | ⟨table, k₃, h₃, h⟩ := run_bind_eq_error_iff.mp h
  · exact .inl (hname _ _ h)
  obtain h | ⟨columns, k₄, h₄, h⟩ := run_bind_eq_error_iff.mp h
  · exact .inl (hcolumns _ _ h)
  obtain h | ⟨_, k₅, h₅, h⟩ := run_bind_eq_error_iff.mp h
  · exact .inl (hexpect _ _ _ h)
  obtain h | ⟨rows, k₆, -, h⟩ := run_bind_eq_error_iff.mp h
  · have hrow := hR.row hn columns.length False.elim
    obtain ⟨v, rows, rest, rfl, hv, h⟩ := exists_of_commaList_error hrow h
    obtain h | ⟨w, values, rfl, hblamed, hw, hlisted, hwidth, hcause⟩ := exists_of_row_error hn hb h
    · exact .inl h
    obtain ⟨_, rfl, rfl⟩ := (hR.expect _).sound h₁
    obtain ⟨_, rfl, rfl⟩ := (hR.expect _).sound h₂
    obtain ⟨_, rfl, ⟨⟩⟩ := hR.identifier.sound h₃
    obtain ⟨u, rfl, hu⟩ := hR.columns.sound h₄
    obtain ⟨_, rfl, rfl⟩ := (hR.expect _).sound h₅
    obtain ⟨hrows, hwidths⟩ := hv.of_and
    exact .inr ⟨_, w, values.length, columns.length, by simp, hblamed,
      .mk table hu hrows (fun row hr => hwidths row hr hlisted) hw
        (mt List.length_eq_zero_iff.mpr hlisted) hwidth, hcause⟩
  · cases h

end Rows

/-! ## Statements -/

section Statements

variable (o : ParserOptions) {kinds : List TokenKind} {f : Failure}

theorem statement_blames (h : (statement o).run kinds = .error f) :
    BlamesNext o.maxDepth f ∨ BlamesRow (upTo o.allowJoinWithoutOn o.maxDepth) kinds f := by
  have hn := nested_blames o o.maxDepth
  rw [statement, statementWith, run_peek] at h
  split at h
  · exact .inl (Blames.of_alike (hn.select.bind fun _ => .pure _) kinds f h)
  · exact insert_blames (Reads.nested_forget o o.maxDepth 0) (.of_alike hn.expr) h
  · exact .inl (Blames.of_alike (.update hn) kinds f h)
  · exact .inl (Blames.of_alike (.delete hn) kinds f h)
  · exact .inl (Blames.of_alike .createTable kinds f h)
  · exact .inl (Blames.unexpected _ kinds f h)

theorem soleStatement_blames (h : (soleStatement o).run kinds = .error f) :
    BlamesNext o.maxDepth f ∨ BlamesRow (upTo o.allowJoinWithoutOn o.maxDepth) kinds f := by
  obtain hstatement | ⟨s, rest, -, h⟩ := run_bind_eq_error_iff.mp h
  · exact statement_blames o hstatement
  have hend : Blames o.maxDepth (do
      let _ ← skip .semicolon
      atEnd .endOfStatement
      return s) :=
    .of_alike ((Alike.skip .semicolon).bind fun _ =>
      (Alike.atEnd .endOfStatement nofun).bind fun _ => .pure s)
  exact .inl (hend rest f h)

end Statements

end SqlSyntax
