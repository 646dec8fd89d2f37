import SqlSyntax.Parser.Expr
import SqlSyntax.Proofs.WellFormed.Basic

/-!
# A sign before an expression

A minus sign goes into a number and stays before all else. The least integer has no opposite, so
the sign stays before it too.
-/
namespace SqlSyntax

theorem toInt_neg_of_ne_minValue {n : Int64} (h : n ≠ Int64.minValue) :
    (-n).toInt = -n.toInt := by
  have hne : n.toInt ≠ Int64.minValue.toInt := fun he => h (Int64.toInt_inj.mp he)
  rw [Int64.toInt_minValue] at hne
  have hle := n.le_toInt
  have hlt := n.toInt_lt
  rw [Int64.toInt_neg]
  exact Int.bmod_eq_of_le (by omega) (by omega)

theorem neg_ne_minValue {n : Int64} (h : n ≠ Int64.minValue) : -n ≠ Int64.minValue := by
  intro hn
  have hopposite : n = -Int64.minValue := by rw [← hn, Int64.neg_neg]
  exact h hopposite

namespace Expr

/-- What does not keep a sign before it is a number. -/
theorem keepsSign_or (e : Expr) :
    e.KeepsSign ∨ (∃ n, n ≠ Int64.minValue ∧ e = integer n) ∨ ∃ x, e = float x := by
  cases e with
  | literal value =>
    cases value with
    | integer n =>
      by_cases hn : n = Int64.minValue
      · exact .inl hn
      · exact .inr (.inl ⟨n, hn, rfl⟩)
    | float x => exact .inr (.inr ⟨x, rfl⟩)
    | string | boolean | null => exact .inl trivial
  | _ => exact .inl trivial

theorem opposite_integer {n : Int64} (h : n ≠ Int64.minValue) :
    (integer n).opposite = integer (-n) := if_neg h

theorem opposite_float (x : Double) : (float x).opposite = float (-x) := rfl

theorem opposite_of_keepsSign {e : Expr} (h : e.KeepsSign) : e.opposite = .negate e := by
  unfold opposite
  split
  · exact if_pos h
  · exact absurd h id
  · rfl

end Expr

end SqlSyntax
