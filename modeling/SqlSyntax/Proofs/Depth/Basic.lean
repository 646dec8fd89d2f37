import SqlSyntax.Tree.Basic

/-!
# Depth of brackets and of queries

Two depths of a statement are measured: how many brackets are open at once among its tokens,
and how many queries of its tree stand inside one another.
-/
namespace SqlSyntax

/-! ## Brackets -/

/-- The left brackets that wait for a right one after a kind, if so many did before it. -/
def TokenKind.waiting (count : Nat) : TokenKind → Nat
  | .leftParen => count + 1
  | .rightParen => count - 1
  | _ => count

/-- The left brackets that have no right one. -/
def unclosed (u : List TokenKind) : Nat := u.foldl TokenKind.waiting 0

theorem TokenKind.waiting_of_ne {kind : TokenKind} (hl : kind ≠ .leftParen)
    (hr : kind ≠ .rightParen) (count : Nat) : waiting count kind = count := by
  unfold waiting
  split
  · exact absurd rfl hl
  · exact absurd rfl hr
  · rfl

/-- The brackets come in pairs, at most so many of them inside one another. -/
inductive Paired : Nat → List TokenKind → Prop
  | nil : Paired n []
  | other : kind ≠ .leftParen → kind ≠ .rightParen → Paired n u → Paired n (kind :: u)
  | pair : Paired n u → Paired (n + 1) v → Paired (n + 1) (.leftParen :: (u ++ .rightParen :: v))

attribute [simp] Paired.nil

@[simp] theorem paired_cons_iff {n : Nat} {kind : TokenKind} {u : List TokenKind}
    (hl : kind ≠ .leftParen) (hr : kind ≠ .rightParen) : Paired n (kind :: u) ↔ Paired n u := by
  refine ⟨fun h => ?_, .other hl hr⟩
  cases h with
  | other _ _ hu => exact hu
  | pair => exact absurd rfl hl

namespace Paired

variable {n : Nat} {u v : List TokenKind}

protected theorem mono {m : Nat} (h : Paired n u) (hle : n ≤ m) : Paired m u := by
  induction h generalizing m with
  | nil => exact .nil
  | other hl hr _ ih => exact .other hl hr (ih hle)
  | pair _ _ ihu ihv =>
    obtain ⟨m, rfl⟩ := Nat.exists_eq_add_of_le' (Nat.le_trans (Nat.le_add_left 1 _) hle)
    exact .pair (ihu (Nat.le_of_succ_le_succ hle)) (ihv hle)

protected theorem append (hu : Paired n u) (hv : Paired n v) : Paired n (u ++ v) := by
  induction hu with
  | nil => exact hv
  | other hl hr _ ih => exact .other hl hr (ih hv)
  | pair hx _ _ ih =>
    rw [List.cons_append, List.append_assoc, List.cons_append]
    exact .pair hx (ih hv)

theorem brackets (hu : Paired n u) :
    Paired (n + 1) (.leftParen :: (u ++ [.rightParen])) := .pair hu .nil

/-- What is paired leaves as many brackets open as there were. -/
theorem foldl_waiting (h : Paired n u) (count : Nat) :
    u.foldl TokenKind.waiting count = count := by
  induction h generalizing count with
  | nil => rfl
  | other hl hr _ ih => rw [List.foldl_cons, TokenKind.waiting_of_ne hl hr, ih]
  | pair _ _ ihu ihv =>
    rw [List.foldl_cons, List.foldl_append, ihu, List.foldl_cons, ihv]
    rfl

/-- Within it no more than so many brackets are opened over those that there were. -/
theorem foldl_waiting_le (h : Paired n u) {before : List TokenKind} (hb : before <+: u)
    (count : Nat) : before.foldl TokenKind.waiting count ≤ count + n := by
  induction h generalizing before count with
  | nil =>
    rw [List.prefix_nil.mp hb]
    exact Nat.le_add_right count _
  | other hl hr _ ih =>
    obtain rfl | ⟨before, rfl, hbefore⟩ := List.prefix_cons_iff.mp hb
    · exact Nat.le_add_right count _
    · rw [List.foldl_cons, TokenKind.waiting_of_ne hl hr]
      exact ih hbefore count
  | @pair n u v hu _ ihu ihv =>
    obtain rfl | ⟨before, rfl, hbefore⟩ := List.prefix_cons_iff.mp hb
    · exact Nat.le_add_right count _
    have hopen : TokenKind.waiting count .leftParen = count + 1 := rfl
    rw [List.foldl_cons, hopen]
    -- the prefix ends inside the pair, or goes on after it
    obtain hinside | ⟨after, rfl⟩ :=
      List.prefix_or_prefix_of_prefix hbefore (List.prefix_append u _)
    · have hle := ihu hinside (count + 1)
      omega
    · rw [List.prefix_append_right_inj] at hbefore
      rw [List.foldl_append, hu.foldl_waiting]
      obtain rfl | ⟨after, rfl, hafter⟩ := List.prefix_cons_iff.mp hbefore
      · exact Nat.add_le_add_left (Nat.le_add_left 1 n) count
      · exact ihv hafter count

end Paired

/-! ## Queries -/

mutual

/-- How many queries stand inside one another. -/
def Expr.queryDepth : Expr → Nat
  | .literal _ | .identifier _ | .qualified .. | .star | .qualifiedStar _ => 0
  | .binary left _ right => max left.queryDepth right.queryDepth
  | .not operand | .negate operand | .isNull operand _ => operand.queryDepth
  | .aggregate _ argument _ => argument.queryDepth
  | .inList operand list _ => max operand.queryDepth (exprQueryDepth list)
  | .inSubquery operand subquery _ => max operand.queryDepth subquery.queryDepth
  | .between operand low high _ =>
    max operand.queryDepth (max low.queryDepth high.queryDepth)
  | .subquery statement => statement.queryDepth

def exprQueryDepth : List Expr → Nat
  | [] => 0
  | e :: es => max e.queryDepth (exprQueryDepth es)

def conditionQueryDepth : Option Expr → Nat
  | none => 0
  | some e => e.queryDepth

def SelectItem.queryDepth : SelectItem → Nat
  | .allColumns => 0
  | .projected e _ => e.queryDepth

def itemQueryDepth : List SelectItem → Nat
  | [] => 0
  | i :: is => max i.queryDepth (itemQueryDepth is)

def TableRef.queryDepth : TableRef → Nat
  | .table .. => 0
  | .join left _ right condition =>
    max left.queryDepth (max right.queryDepth condition.queryDepth)

def sourceQueryDepth : Option TableRef → Nat
  | none => 0
  | some t => t.queryDepth

def OrderBy.queryDepth : OrderBy → Nat
  | ⟨e, _⟩ => e.queryDepth

def orderQueryDepth : List OrderBy → Nat
  | [] => 0
  | entry :: entries => max entry.queryDepth (orderQueryDepth entries)

/-- A query counts itself. -/
def Select.queryDepth : Select → Nat
  | ⟨_, columns, source, condition, groupBy, having, orderBy, _, _⟩ =>
    max (itemQueryDepth columns) (max (sourceQueryDepth source)
      (max (conditionQueryDepth condition) (max (exprQueryDepth groupBy)
        (max (conditionQueryDepth having) (orderQueryDepth orderBy))))) + 1

def Assignment.queryDepth : Assignment → Nat
  | ⟨_, value⟩ => value.queryDepth

def assignmentQueryDepth : List Assignment → Nat
  | [] => 0
  | a :: as => max a.queryDepth (assignmentQueryDepth as)

def rowQueryDepth : List (List Expr) → Nat
  | [] => 0
  | row :: rows => max (exprQueryDepth row) (rowQueryDepth rows)

def Statement.queryDepth : Statement → Nat
  | .select query => query.queryDepth
  | .insert _ _ rows => rowQueryDepth rows
  | .update _ assignments condition =>
    max (assignmentQueryDepth assignments) (conditionQueryDepth condition)
  | .delete _ condition => conditionQueryDepth condition
  | .createTable .. => 0

end

attribute [simp] Expr.queryDepth SelectItem.queryDepth TableRef.queryDepth OrderBy.queryDepth
  Select.queryDepth Assignment.queryDepth Statement.queryDepth

/-- The functions that take the greatest depth of a list. -/
theorem le_iff_of_cons {α : Type} {depths : List α → Nat} {depth : α → Nat}
    (hnil : depths [] = 0) (hcons : ∀ a as, depths (a :: as) = max (depth a) (depths as))
    (as : List α) (m : Nat) : depths as ≤ m ↔ ∀ a ∈ as, depth a ≤ m := by
  induction as with
  | nil => simp [hnil]
  | cons a as ih => rw [hcons, Nat.max_le, ih, List.forall_mem_cons]

@[simp] theorem exprQueryDepth_le_iff (es : List Expr) (m : Nat) :
    exprQueryDepth es ≤ m ↔ ∀ e ∈ es, e.queryDepth ≤ m :=
  le_iff_of_cons rfl (fun _ _ => rfl) es m

@[simp] theorem itemQueryDepth_le_iff (is : List SelectItem) (m : Nat) :
    itemQueryDepth is ≤ m ↔ ∀ i ∈ is, i.queryDepth ≤ m :=
  le_iff_of_cons rfl (fun _ _ => rfl) is m

@[simp] theorem orderQueryDepth_le_iff (entries : List OrderBy) (m : Nat) :
    orderQueryDepth entries ≤ m ↔ ∀ entry ∈ entries, entry.queryDepth ≤ m :=
  le_iff_of_cons rfl (fun _ _ => rfl) entries m

@[simp] theorem assignmentQueryDepth_le_iff (as : List Assignment) (m : Nat) :
    assignmentQueryDepth as ≤ m ↔ ∀ a ∈ as, a.queryDepth ≤ m :=
  le_iff_of_cons rfl (fun _ _ => rfl) as m

@[simp] theorem rowQueryDepth_le_iff (rows : List (List Expr)) (m : Nat) :
    rowQueryDepth rows ≤ m ↔ ∀ row ∈ rows, exprQueryDepth row ≤ m :=
  le_iff_of_cons rfl (fun _ _ => rfl) rows m

@[simp] theorem conditionQueryDepth_eq (e : Option Expr) :
    conditionQueryDepth e = e.elim 0 Expr.queryDepth := by
  cases e <;> rfl

@[simp] theorem sourceQueryDepth_eq (t : Option TableRef) :
    sourceQueryDepth t = t.elim 0 TableRef.queryDepth := by
  cases t <;> rfl

end SqlSyntax
