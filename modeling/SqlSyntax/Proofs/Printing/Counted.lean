import SqlSyntax.Proofs.Grammar.Rows
import SqlSyntax.Proofs.Signs.Folded

/-!
# Rows that are counted right

A tree may have `NOT` or a minus sign more often in a row than a counter of 32 bits goes up to. In
a counted tree there is no such row.
-/
namespace SqlSyntax

namespace Expr

/-- Nowhere in the expression `NOT`, or a minus sign, stands 2147483648 times in a row, or more
often. -/
def Counted (e : Expr) : Prop :=
  ∀ k, 2147483648 ≤ k → ∀ d : Expr, ¬(not^[k] d).Within e ∧ ¬(negate^[k] d).Within e

theorem Counted.operand {e f : Expr} (h : e.Counted) (hf : f ∈ e.operands) : f.Counted :=
  fun k hk d => ⟨fun hd => (h k hk d).1 (.operand hf hd), fun hd => (h k hk d).2 (.operand hf hd)⟩

/-- A row of two or more begins here. -/
def beginsRow : Expr → Bool
  | not (not _) | negate (negate _) => true
  | _ => false

/-- A row of one is not too long. -/
theorem Counted.of_operands {e : Expr} (he : e.beginsRow = false)
    (h : ∀ f ∈ e.operands, f.Counted) : e.Counted := by
  intro k hk d
  obtain ⟨k, rfl⟩ := Nat.exists_eq_add_of_le' (Nat.le_trans (by decide : 2 ≤ 2147483648) hk)
  constructor
  · intro hd
    cases hd with
    | self =>
      rw [Function.iterate_succ_apply', Function.iterate_succ_apply'] at he
      cases he
    | operand hf hd => exact (h _ hf _ hk d).1 hd
  · intro hd
    cases hd with
    | self =>
      rw [Function.iterate_succ_apply', Function.iterate_succ_apply'] at he
      cases he
    | operand hf hd => exact (h _ hf _ hk d).2 hd

end Expr

def SelectItem.Counted (i : SelectItem) : Prop := ∀ e ∈ i.exprs, e.Counted

def TableRef.Counted (t : TableRef) : Prop := ∀ e ∈ t.exprs, e.Counted

def Select.Counted (q : Select) : Prop := ∀ e ∈ q.exprs, e.Counted

def Statement.Counted (s : Statement) : Prop := ∀ e ∈ s.exprs, e.Counted

theorem TableRef.counted_join_iff {left right : TableRef} {type : JoinType} {condition : Expr} :
    (TableRef.join left type right condition).Counted ↔
      left.Counted ∧ right.Counted ∧ condition.Counted := by
  simp only [Counted, exprs, List.forall_mem_append, List.forall_mem_singleton]

theorem Select.counted_iff {q : Select} :
    q.Counted ↔ (∀ i ∈ q.columns, i.Counted) ∧ (∀ t ∈ q.source, t.Counted) ∧
      (∀ e ∈ q.condition, e.Counted) ∧ (∀ e ∈ q.groupBy, e.Counted) ∧
      (∀ e ∈ q.having, e.Counted) ∧ ∀ entry ∈ q.orderBy, entry.expr.Counted := by
  simp only [Counted, exprs, List.forall_mem_append, List.forall_mem_flatMap,
    List.forall_mem_map, Option.mem_toList, Option.mem_def, SelectItem.Counted, TableRef.Counted]

namespace Grammar

variable (g : Inner)

inductive CountedNots : Language Expr
  | mk (k : Nat) : k < 2147483648 → Predicate g u e →
      CountedNots (List.replicate k (.keyword .not) ++ u) (Expr.not^[k] e)

/-- Minus signs that stay, as they are not taken into a number. -/
inductive CountedMinuses : Language Expr
  | mk (k : Nat) : k < 2147483648 → (0 < k → e.KeepsSign) → Primary g u e →
      CountedMinuses (List.replicate k (.operator .minus) ++ u) (Expr.negate^[k] e)

variable {g} {u : List TokenKind} {e : Expr}

theorem CountedNots.negation (h : CountedNots g u e) : Negation g u e := by
  obtain ⟨k, hk, hu⟩ := h
  have hrow := Negation.replicate hu k
  rw [rounds_of_lt hk] at hrow
  exact hrow

theorem CountedMinuses.signed (h : CountedMinuses g u e) : Signed g u e := by
  obtain ⟨k, hk, hkeeps, hu⟩ := h
  have hrow := Signed.replicate hu k
  rw [rounds_of_lt hk] at hrow
  cases k with
  | zero => exact hrow
  | succ k =>
    rw [Expr.opposite_iterate_of_keepsSign (hkeeps k.succ_pos)] at hrow
    exact hrow

/-- With one `NOT` more the row is counted right as long as the expression is. -/
theorem CountedNots.not (h : CountedNots g u e) (hcounted : (Expr.not e).Counted) :
    CountedNots g (.keyword .not :: u) (.not e) := by
  obtain ⟨k, -, hu⟩ := h
  rw [← Function.iterate_succ_apply' Expr.not] at hcounted ⊢
  have hk : k + 1 < 2147483648 := Nat.lt_of_not_le fun hle => (hcounted _ hle _).1 .self
  exact .mk (k + 1) hk hu

theorem CountedMinuses.negate (h : CountedMinuses g u e) (hkeeps : e.KeepsSign)
    (hcounted : (Expr.negate e).Counted) :
    CountedMinuses g (.operator .minus :: u) (.negate e) := by
  obtain ⟨k, -, hd, hu⟩ := h
  rw [← Function.iterate_succ_apply' Expr.negate] at hcounted ⊢
  have hk : k + 1 < 2147483648 := Nat.lt_of_not_le fun hle => (hcounted _ hle _).2 .self
  refine .mk (k + 1) hk (fun _ => ?_) hu
  cases k with
  | zero => exact hkeeps
  | succ k => exact hd k.succ_pos

end Grammar

end SqlSyntax
