import Mathlib.Algebra.Ring.Int.Defs
import SqlSyntax.Proofs.Accepting.Statement
import SqlSyntax.Proofs.Printing.Phrase

/-!
# Many signs

Signs one after another do what each of them does, from the last one on: a number takes as many of
them as are counted, and before all else so many minus signs pile up. A number in brackets is read
as it is without them, so it takes the signs before the brackets.
-/
namespace SqlSyntax

open SqlSyntax.Parser Grammar

namespace Expr

/-- Each sign turns the number round, and never to the least integer. -/
theorem exists_opposite_iterate_integer {n : Int64} (hn : n ≠ Int64.minValue) (k : Nat) :
    ∃ m : Int64, m ≠ Int64.minValue ∧ m.toInt = (-1) ^ k * n.toInt ∧
      opposite^[k] (integer n) = integer m := by
  induction k with
  | zero => exact ⟨n, hn, by rw [pow_zero, one_mul], rfl⟩
  | succ k ih =>
    obtain ⟨m, hm, hvalue, hsigns⟩ := ih
    refine ⟨-m, neg_ne_minValue hm, ?_, ?_⟩
    · rw [toInt_neg_of_ne_minValue hm, hvalue, pow_succ', neg_one_mul, neg_mul]
    · rw [Function.iterate_succ_apply', hsigns, opposite_integer hm]

theorem opposite_iterate_float (x : Double) (k : Nat) :
    opposite^[k] (float x) = float (Neg.neg^[k] x) := by
  induction k with
  | zero => rfl
  | succ k ih =>
    rw [Function.iterate_succ_apply', Function.iterate_succ_apply', ih, opposite_float]

end Expr

/-! ## Signs among the tokens -/

variable {n : Nested} {signs kinds rest : List TokenKind} {e : Expr}

/-- No primary expression begins with a sign. -/
theorem sign?_of_run_primary (h : (primary n).run kinds = .ok (e, rest)) :
    ∀ kind ∈ kinds.head?, sign? kind = none := by
  intro kind hk
  obtain ⟨ks, rfl⟩ := List.head?_eq_some_iff.mp hk
  unfold sign?
  split
  · cases h
  · cases h
  · rfl

theorem run_signed (hsigns : ∀ kind ∈ signs, kind.IsSign)
    (h : (primary n).run kinds = .ok (e, rest)) :
    (signed n).run (signs ++ kinds) =
      .ok (Expr.opposite^[rounds (signs.count (.operator .minus))] e, rest) := by
  obtain ⟨minuses, hminuses, hcount⟩ := exists_many_sign hsigns
  have hmany := Accepts.many Accepts.step_sign hminuses ⟨trivial, sign?_of_run_primary h⟩
  unfold signed
  rw [run_bind_of_ok hmany, run_bind_of_ok h, run_pure, repeat_eq_iterate, hcount]

/-- A row of minus signs that is too long for its counter, but not twice so, does nothing. -/
theorem run_signed_uncounted (h : (primary n).run kinds = .ok (e, rest)) {k : Nat}
    (hk : 2147483648 ≤ k) (hlt : k < 4294967296) :
    (signed n).run (List.replicate k (.operator .minus) ++ kinds) = .ok (e, rest) := by
  have hrun := run_signed (isSign_of_mem_replicate k) h
  rw [List.count_replicate_self, rounds_of_le hk hlt] at hrun
  exact hrun

/-- The number is exact, however many signs there are: no opposite of it is out of range. -/
theorem exists_run_signed_integer {i : Int64} (hsigns : ∀ kind ∈ signs, kind.IsSign)
    (hi : i ≠ Int64.minValue) (h : (primary n).run kinds = .ok (.integer i, rest)) :
    ∃ m : Int64, m.toInt = (-1) ^ rounds (signs.count (.operator .minus)) * i.toInt ∧
      (signed n).run (signs ++ kinds) = .ok (.integer m, rest) := by
  obtain ⟨m, -, hvalue, hfold⟩ := Expr.exists_opposite_iterate_integer hi _
  exact ⟨m, hvalue, by rw [run_signed hsigns h, hfold]⟩

theorem run_signed_float {x : Double} (hsigns : ∀ kind ∈ signs, kind.IsSign)
    (h : (primary n).run kinds = .ok (.float x, rest)) :
    (signed n).run (signs ++ kinds) =
      .ok (.float (Neg.neg^[rounds (signs.count (.operator .minus))] x), rest) := by
  rw [run_signed hsigns h, Expr.opposite_iterate_float]

theorem run_signed_other (hsigns : ∀ kind ∈ signs, kind.IsSign)
    (h : (primary n).run kinds = .ok (e, rest))
    (hinteger : ∀ i, i ≠ Int64.minValue → e ≠ .integer i) (hfloat : ∀ x, e ≠ .float x) :
    (signed n).run (signs ++ kinds) =
      .ok (Expr.negate^[rounds (signs.count (.operator .minus))] e, rest) := by
  obtain hkeeps | ⟨i, hi, rfl⟩ | ⟨x, rfl⟩ := e.keepsSign_or
  · rw [run_signed hsigns h, Expr.opposite_iterate_of_keepsSign hkeeps]
  · exact absurd rfl (hinteger i hi)
  · exact absurd rfl (hfloat x)

/-! ## Numbers in brackets -/

/-- A literal in so many brackets is a primary expression where so many more may be open. -/
theorem primary_brackets (lax : Bool) (brackets left : Nat) (value : Literal) :
    Primary (upTo lax (left + brackets))
      (List.replicate brackets .leftParen ++
        .literal value :: List.replicate brackets .rightParen) (.literal value) := by
  induction brackets with
  | zero => exact .literal value
  | succ brackets ih =>
    have hinner : (upTo lax (left + brackets + 1)).expr _ _ := layer_of_primary 0 ih
    have h := Primary.brackets (.expr hinner)
    rw [List.append_assoc, List.cons_append, ← List.replicate_succ'] at h
    exact h

theorem run_primary_brackets (o : ParserOptions) {brackets left : Nat} (h : brackets ≤ left)
    (value : Literal) (rest : List TokenKind) :
    (primary (nested o left)).run (List.replicate brackets .leftParen ++
      .literal value :: (List.replicate brackets .rightParen ++ rest)) =
        .ok (.literal value, rest) := by
  cases brackets with
  | zero => rfl
  | succ brackets =>
    obtain ⟨more, rfl⟩ := Nat.exists_eq_add_of_le' h
    have hinner : (upTo o.allowJoinWithoutOn (more + brackets + 1)).expr _ _ :=
      layer_of_primary 0 (primary_brackets o.allowJoinWithoutOn brackets more value)
    have hrun : (parenthesized (nested o _)).run (_ ++ .rightParen :: rest) = _ :=
      Accepts.parenthesized (Accepts.nested o _) (.expr hinner)
    rw [List.append_assoc, List.cons_append] at hrun
    rw [List.replicate_succ, List.replicate_succ', List.append_assoc]
    exact hrun

theorem run_signed_brackets (hsigns : ∀ kind ∈ signs, kind.IsSign) (o : ParserOptions)
    {brackets left : Nat} (h : brackets ≤ left) (value : Literal) (rest : List TokenKind) :
    (signed (nested o left)).run (signs ++ (List.replicate brackets .leftParen ++
        .literal value :: (List.replicate brackets .rightParen ++ rest))) =
      (signed (nested o left)).run (signs ++ .literal value :: rest) := by
  have hbare : (primary (nested o left)).run (.literal value :: rest) =
      .ok (.literal value, rest) := rfl
  rw [run_signed hsigns (run_primary_brackets o h value rest), run_signed hsigns hbare]

end SqlSyntax
