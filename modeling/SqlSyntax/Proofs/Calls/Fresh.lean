import SqlSyntax.Proofs.Calls.Basic

/-!
# Calls do not depend on the calls before them

All that one call leaves to the next is the place where it stopped. From there the next call
does what it would do at the start of a session over the tokens that are left.
-/
namespace SqlSyntax

open SqlSyntax.Parser

/-- The same error, found so many tokens further on. -/
def ParseError.shift (e : ParseError) (n : Nat) : ParseError :=
  { e with position := n + e.position }

namespace Session

variable {α : Type} (tokens : List Token) (o : ParserOptions)

theorem spanAt_drop (cursor i : Nat) :
    (start (tokens.drop cursor) o).spanAt i =
      (⟨tokens, cursor, o⟩ : Session).spanAt (cursor + i) := by
  simp [spanAt, start, List.getElem?_drop]

/-- A parser runs from a place as it runs from the start of the tokens that are left. -/
theorem run_eq_start (cursor : Nat) (p : Parser α) :
    (⟨tokens, cursor, o⟩ : Session).run p =
      (((start (tokens.drop cursor) o).run p).1.mapError (·.shift cursor),
        ⟨tokens, cursor + ((start (tokens.drop cursor) o).run p).2.cursor, o⟩) := by
  have hspan := spanAt_drop tokens o cursor
  simp only [run, ahead, start, List.drop_zero, Nat.zero_add] at hspan ⊢
  cases p.run ((tokens.drop cursor).map Token.kind) with
  | ok result => rfl
  | error failure =>
    dsimp only
    rw [hspan]
    rfl

/-- No call goes beyond the last token. -/
theorem cursor_run_le {cursor : Nat} (h : cursor ≤ tokens.length) (p : Parser α) :
    ((⟨tokens, cursor, o⟩ : Session).run p).2.cursor ≤ tokens.length := by
  simp only [run, ahead, List.length_map, List.length_drop]
  cases p.run ((tokens.drop cursor).map Token.kind) with
  | ok result => dsimp only; omega
  | error failure => dsimp only; omega

theorem after_calls (calls : List Call) {cursor : Nat} (h : cursor ≤ tokens.length) :
    ∃ cursor' ≤ tokens.length,
      (⟨tokens, cursor, o⟩ : Session).after calls = ⟨tokens, cursor', o⟩ := by
  induction calls generalizing cursor with
  | nil => exact ⟨cursor, h, rfl⟩
  | cons c calls ih =>
    have hle := cursor_run_le tokens o h (c.parser o)
    rw [after, call_eq_run]
    rw [run_eq_start] at hle ⊢
    exact ih hle

theorem keeps_call (c : Call) : Keeps o.maxDepth 0 (c.parser o) := by
  cases c with
  | parse => exact soleStatement_keeps o
  | parseStatement => exact statement_keeps o

/-- Each call closes what it opens. -/
theorem openAfter?_history (calls : List Call) (cursor : Nat) :
    openAfter? o.maxDepth 0 ((⟨tokens, cursor, o⟩ : Session).history calls) = some 0 := by
  induction calls generalizing cursor with
  | nil => rfl
  | cons c calls ih =>
    rw [history, openAfter?_append (keeps_call o c _), call_eq_run, run_eq_start]
    exact ih _

/-- Where nothing is open all levels are left to a call, and nothing is open after it. -/
theorem counted_call (s : Session) (c : Call) :
    (⟨s, 0⟩ : CountedSession).call c = ((s.call c).1, ⟨(s.call c).2, 0⟩) := by
  have hcount := openAfter_of_openAfter? (keeps_call s.options c s.ahead)
  rw [call_eq_run]
  cases c <;> exact congrArg (fun count => (_, (⟨_, count⟩ : CountedSession))) hcount

theorem counted_after (s : Session) (calls : List Call) :
    (⟨s, 0⟩ : CountedSession).after calls = ⟨s.after calls, 0⟩ := by
  induction calls generalizing s with
  | nil => rfl
  | cons c calls ih =>
    rw [CountedSession.after, counted_call]
    exact ih _

/-- Whatever calls were made before, and whether or not they failed, the limit of nesting was
heeded in them and nothing is open after them; the session stands at some place and is
otherwise as it was; and the next call gives what it gives at the start of a session over the
tokens from that place on, an error being counted from the first of all tokens, and goes on
from there as far as it goes in that session. So it does too in a session that takes the count of
what is open from each call into the next. -/
theorem call_eq_start (calls : List Call) (c : Call) :
    openAfter? o.maxDepth 0 ((start tokens o).history calls) = some 0 ∧
      ∃ cursor ≤ tokens.length, (start tokens o).after calls = ⟨tokens, cursor, o⟩ ∧
        (⟨tokens, cursor, o⟩ : Session).call c =
          (((start (tokens.drop cursor) o).call c).1.mapError (·.shift cursor),
            ⟨tokens, cursor + ((start (tokens.drop cursor) o).call c).2.cursor, o⟩) ∧
        (CountedSession.start tokens o).after calls = ⟨⟨tokens, cursor, o⟩, 0⟩ ∧
        ((CountedSession.start tokens o).after calls).call c =
          (((start (tokens.drop cursor) o).call c).1.mapError (·.shift cursor),
            ⟨⟨tokens, cursor + ((start (tokens.drop cursor) o).call c).2.cursor, o⟩, 0⟩) := by
  refine ⟨openAfter?_history tokens o calls 0, ?_⟩
  obtain ⟨cursor, hle, hafter⟩ := after_calls tokens o calls (Nat.zero_le tokens.length)
  have hcall : (⟨tokens, cursor, o⟩ : Session).call c =
      (((start (tokens.drop cursor) o).call c).1.mapError (·.shift cursor),
        ⟨tokens, cursor + ((start (tokens.drop cursor) o).call c).2.cursor, o⟩) := by
    rw [call_eq_run, call_eq_run]
    exact run_eq_start tokens o cursor (c.parser o)
  have hcounted : (CountedSession.start tokens o).after calls = ⟨⟨tokens, cursor, o⟩, 0⟩ := by
    rw [CountedSession.start, counted_after]
    exact congrArg (CountedSession.mk · 0) hafter
  refine ⟨cursor, hle, hafter, hcall, hcounted, ?_⟩
  rw [hcounted, counted_call, hcall]

end Session

end SqlSyntax
