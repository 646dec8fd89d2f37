import SqlSyntax.Proofs.Accepting.Query
import SqlSyntax.Proofs.Alike.Deferred
import SqlSyntax.Proofs.Reading.Query

/-!
# What begins in a run begins later

An expression or a query consumes a kind before another one begins in it, and it consumes one
before it is read, whatever parsers it takes for those in it.
-/
namespace SqlSyntax

open SqlSyntax.Parser

variable {α β : Type} {kinds rest : List TokenKind} {kind : TokenKind}

/-! ## Traces -/

theorem trace_choose_of_some {f : TokenKind → Option (Parser α)} {p : Parser α}
    (h : f kind = some p) (otherwise : Parser α) (kinds : List TokenKind) :
    (choose f otherwise).trace (kind :: kinds) = .consumed (kind :: kinds) :: p.trace kinds := by
  simp only [choose, h]

theorem trace_choose_of_none {f : TokenKind → Option (Parser α)} (otherwise : Parser α)
    (h : ∀ kind ∈ kinds.head?, f kind = none) :
    (choose f otherwise).trace kinds = otherwise.trace kinds := by
  cases kinds with
  | nil => rfl
  | cons kind kinds => simp only [choose, h kind rfl]

theorem trace_expect_self (kind : TokenKind) (kinds : List TokenKind) :
    (expect kind).trace (kind :: kinds) = [.consumed (kind :: kinds)] := by
  simp only [expect, choose, if_pos]
  rfl

theorem trace_expect_of_head?_ne (h : kinds.head? ≠ some kind) :
    (expect kind).trace kinds = [] := by
  refine trace_choose_of_none _ fun k hk => if_neg ?_
  rintro rfl
  exact h hk

theorem trace_many_of_some {next : TokenKind → Option (Parser α)} {p : Parser α}
    (h : next kind = some p) (kinds : List TokenKind) :
    (many next).trace (kind :: kinds) = .consumed (kind :: kinds) :: (p.trace kinds ++
      match p.run kinds with
      | .ok (_, rest) => .again (kind :: kinds) rest :: (many next).trace rest
      | .error _ => []) := by
  simp only [many, traceMany, h]
  split
  · rename_i hr
    rw [hr, List.append_nil]
  · rename_i a rest hr
    rw [hr]

theorem trace_many_of_head? {next : TokenKind → Option (Parser α)}
    (h : ∀ kind ∈ kinds.head?, next kind = none) : (many next).trace kinds = [] := by
  cases kinds with
  | nil => simp only [many, traceMany]
  | cons kind kinds => simp only [many, traceMany, h kind rfl]

/-- What holds where a repetition does not go on, and before each round if it holds after it, holds
wherever the repetition begins. -/
theorem rounds_induction (next : TokenKind → Option (Parser α)) {P : List TokenKind → Prop}
    (hstop : ∀ kinds, (∀ kind ∈ kinds.head?, next kind = none) → P kinds)
    (hround : ∀ kind kinds p, next kind = some p →
      (∀ a rest, p.run kinds = .ok (a, rest) → P rest) → P (kind :: kinds))
    (kinds : List TokenKind) : P kinds := by
  induction hlength : kinds.length using Nat.strongRecOn generalizing kinds with
  | ind n ih =>
    cases kinds with
    | nil => exact hstop [] nofun
    | cons kind kinds =>
      cases hk : next kind with
      | none => exact hstop (kind :: kinds) (by simpa using hk)
      | some p =>
        refine hround kind kinds p hk fun a rest hr => ih rest.length ?_ rest rfl
        have := (suffix_of_run hr).length_le
        rw [List.length_cons] at hlength
        omega

/-! ## What begins in a run begins after some kinds -/

/-- Before an expression or a query begins that is in no other one, so many kinds are consumed. -/
def BeginsAfter (count : Nat) (p : Parser α) : Prop :=
  ∀ kinds place, .begun none place ∈ p.trace kinds → count + place.length ≤ kinds.length

namespace BeginsAfter

variable {count : Nat} {p : Parser α}

protected theorem bind {f : α → Parser β} (hp : BeginsAfter count p)
    (hf : ∀ a, BeginsAfter count (f a)) : BeginsAfter count (p >>= f) := by
  intro kinds place hmem
  rw [trace_bind] at hmem
  cases hr : p.run kinds with
  | error failure =>
    rw [hr, List.append_nil] at hmem
    exact hp kinds place hmem
  | ok result =>
    rw [hr] at hmem
    have := (suffix_of_run hr).length_le
    obtain hmem | hmem := List.mem_append.mp hmem
    · exact hp kinds place hmem
    · have := hf result.1 result.2 place hmem
      omega

protected theorem choose {f : TokenKind → Option (Parser α)} {otherwise : Parser α} {n : Nat}
    (hf : ∀ kind p, f kind = some p → BeginsAfter count p) (ho : BeginsAfter n otherwise)
    (hn : n ≤ count + 1) : BeginsAfter n (choose f otherwise) := by
  intro kinds place hmem
  cases kinds with
  | nil => exact ho [] place hmem
  | cons kind kinds =>
    cases hk : f kind with
    | none =>
      rw [trace_choose_of_none otherwise (by simpa using hk)] at hmem
      exact ho (kind :: kinds) place hmem
    | some p =>
      rw [trace_choose_of_some hk] at hmem
      obtain _ | ⟨_, hmem⟩ := hmem
      have := hf kind p hk kinds place hmem
      rw [List.length_cons]
      omega

theorem token {f : Unit → Parser α} (h : BeginsAfter count (f ())) :
    BeginsAfter (count + 1) (expect kind >>= f) := by
  intro kinds place hmem
  rw [trace_bind] at hmem
  by_cases hk : kinds.head? = some kind
  · obtain ⟨rest, rfl⟩ := List.head?_eq_some_iff.mp hk
    rw [trace_expect_self, run_expect_self] at hmem
    obtain _ | ⟨_, hmem⟩ := hmem
    have := h rest place hmem
    rw [List.length_cons]
    omega
  · rw [trace_expect_of_head?_ne hk, run_expect_of_head?_ne hk] at hmem
    cases hmem

protected theorem many {next : TokenKind → Option (Parser α)}
    (h : ∀ kind p, next kind = some p → BeginsAfter count p) : BeginsAfter count (many next) := by
  intro kinds place
  induction kinds using rounds_induction next with
  | hstop kinds hnone =>
    rw [trace_many_of_head? hnone]
    exact nofun
  | hround kind kinds p hk ih =>
    rw [trace_many_of_some hk, List.length_cons]
    intro hmem
    obtain _ | ⟨_, hmem⟩ := hmem
    obtain hmem | hmem := List.mem_append.mp hmem
    · have := h kind p hk kinds place hmem
      omega
    · cases hr : p.run kinds with
      | error failure =>
        rw [hr] at hmem
        cases hmem
      | ok result =>
        rw [hr] at hmem
        obtain _ | ⟨_, hmem⟩ := hmem
        have := (suffix_of_run hr).length_le
        have := ih result.1 result.2 hr hmem
        omega

/-- What begins in something else is in it from then on. -/
protected theorem nest (p : Unit → Parser α) : BeginsAfter 0 (nest p) := by
  intro kinds place hmem
  obtain _ | ⟨_, hmem⟩ := hmem
  · omega
  · obtain hmem | hmem := List.mem_append.mp hmem
    · obtain ⟨event, -, hevent⟩ := List.mem_map.mp hmem
      unfold TraceEvent.inside at hevent
      split at hevent
      · cases hevent
      · rename_i hother
        exact absurd hevent (hother place)
    · cases hr : (p ()).run kinds with
      | error failure =>
        rw [hr] at hmem
        cases hmem
      | ok result =>
        rw [hr] at hmem
        obtain _ | ⟨_, ⟨⟩⟩ := hmem

protected theorem refuse (limit : Nat) : BeginsAfter 0 (refuse limit : Parser α) := by
  intro kinds place hmem
  obtain _ | ⟨_, ⟨⟩⟩ := hmem
  omega

end BeginsAfter

theorem deferred_beginsAfter : Deferred BeginsAfter where
  pure _ _ _ := nofun
  bind := .bind
  unexpected _ _ _ := nofun
  peek h kinds := h kinds.head? kinds
  choose := .choose
  token := .token
  many := .many

theorem nested_beginsAfter (o : ParserOptions) (left : Nat) :
    (nested o left).Alike (fun p _ => BeginsAfter 0 p) (nested o left) := by
  cases left with
  | zero => exact ⟨.base (.refuse _), .base (.refuse _)⟩
  | succ left =>
    have hexpr : BeginsAfter 0 (nest fun _ => disjunction (nested o left)) := .nest _
    have hselect : BeginsAfter 0 (nest fun _ => selectBody o (nested o left)) := .nest _
    exact ⟨.base hexpr, .base hselect⟩

/-! ## Expressions and queries consume kinds -/

theorem length_lt_of_expr {o : ParserOptions} {left : Nat} {e : Expr}
    (h : (nested o left).expr.run kinds = .ok (e, rest)) : rest.length < kinds.length := by
  obtain ⟨u, rfl, hu⟩ := (Reads.nested_forget o left 0).expr.sound h
  obtain ⟨kind, v, rfl, -⟩ := (Accepts.nested o left).begins_expr hu
  simp only [List.cons_append, List.length_cons, List.length_append]
  omega

theorem length_lt_of_select {o : ParserOptions} {left : Nat} {q : Select}
    (h : (nested o left).select.run kinds = .ok (q, rest)) : rest.length < kinds.length := by
  obtain ⟨u, rfl, hu⟩ := (Reads.nested_forget o left 0).select.sound h
  obtain ⟨v, rfl⟩ := (Accepts.nested o left).begins_select hu
  simp only [List.cons_append, List.length_cons, List.length_append]
  omega

end SqlSyntax
