import SqlSyntax.Proofs.Alike.Statement

/-!
# The limit of nesting is heeded

What is open is counted. A history is admitted under a limit if something is opened only
below the limit and refused only at it. Each parser of a level comes back to the count that
it began with, whether it succeeds or fails, so that nothing is left open between two
statements.
-/
namespace SqlSyntax

open SqlSyntax.Parser

/-- The count after an event, if the limit admits the event. -/
def NestingEvent.next? (limit count : Nat) : NestingEvent → Option Nat
  | .opened => if count < limit then some (count + 1) else none
  | .closed => if 0 < count then some (count - 1) else none
  | .refused => if count < limit then none else some count

/-- The count after a history, if the limit admits all of it. -/
def openAfter? (limit count : Nat) (history : List NestingEvent) : Option Nat :=
  history.foldlM (NestingEvent.next? limit) count

/-- The count after an event, whatever the limit. -/
def NestingEvent.next (count : Nat) : NestingEvent → Nat
  | .opened => count + 1
  | .closed => count - 1
  | .refused => count

theorem NestingEvent.next_of_next? {event : NestingEvent} {limit count after : Nat}
    (h : event.next? limit count = some after) : event.next count = after := by
  cases event <;>
    simp only [next?, Option.ite_none_right_eq_some, Option.ite_none_left_eq_some,
      Option.some.injEq] at h <;> exact h.2

def openAfter (count : Nat) (history : List NestingEvent) : Nat :=
  history.foldl NestingEvent.next count

theorem openAfter_of_openAfter? {limit count after : Nat} {history : List NestingEvent}
    (h : openAfter? limit count history = some after) : openAfter count history = after := by
  induction history generalizing count with
  | nil => exact Option.some.inj h
  | cons event history ih =>
    rw [openAfter?, List.foldlM_cons, Option.bind_eq_bind, Option.bind_eq_some_iff] at h
    obtain ⟨next, hnext, h⟩ := h
    rw [openAfter, List.foldl_cons, NestingEvent.next_of_next? hnext]
    exact ih h

theorem openAfter?_append {limit count middle : Nat} {before : List NestingEvent}
    (h : openAfter? limit count before = some middle) (after : List NestingEvent) :
    openAfter? limit count (before ++ after) = openAfter? limit middle after := by
  rw [openAfter?, List.foldlM_append, ← openAfter?, h]
  rfl

/-- What a limit admits stays below it: as many are open as were opened and not closed, and no
more than the limit. -/
theorem openAfter?_eq_some {limit count after : Nat} {history : List NestingEvent}
    (h : openAfter? limit count history = some after) (hcount : count ≤ limit) :
    after ≤ limit ∧ after + history.count .closed = count + history.count .opened := by
  induction history generalizing count with
  | nil =>
    obtain rfl : count = after := Option.some.inj h
    exact ⟨hcount, rfl⟩
  | cons event history ih =>
    rw [openAfter?, List.foldlM_cons, Option.bind_eq_bind, Option.bind_eq_some_iff] at h
    obtain ⟨next, hnext, h⟩ := h
    cases event with
    | opened =>
      obtain ⟨hlt, rfl⟩ : count < limit ∧ count + 1 = next := by
        simpa [NestingEvent.next?] using hnext
      obtain ⟨hle, hafter⟩ := ih h hlt
      refine ⟨hle, ?_⟩
      simp only [List.count_cons_self, List.count_cons_of_ne, ne_eq, reduceCtorEq,
        not_false_eq_true]
      omega
    | closed =>
      obtain ⟨hlt, rfl⟩ : 0 < count ∧ count - 1 = next := by
        simpa [NestingEvent.next?] using hnext
      obtain ⟨hle, hafter⟩ := ih h (by omega)
      refine ⟨hle, ?_⟩
      simp only [List.count_cons_self, List.count_cons_of_ne, ne_eq, reduceCtorEq,
        not_false_eq_true]
      omega
    | refused =>
      obtain ⟨-, rfl⟩ : limit ≤ count ∧ count = next := by
        simpa [NestingEvent.next?] using hnext
      obtain ⟨hle, hafter⟩ := ih h hcount
      exact ⟨hle, by simpa using hafter⟩

/-- What is admitted as a whole is admitted at each point. -/
theorem exists_openAfter?_of_prefix {limit count after : Nat}
    {before history : List NestingEvent} (hb : before <+: history)
    (h : openAfter? limit count history = some after) :
    ∃ middle, openAfter? limit count before = some middle := by
  obtain ⟨rest, rfl⟩ := hb
  rw [openAfter?, List.foldlM_append, Option.bind_eq_bind, Option.bind_eq_some_iff] at h
  obtain ⟨middle, hmiddle, -⟩ := h
  exact ⟨middle, hmiddle⟩

/-- With `count` already open the limit admits all that a parser does, and in the end as many
are open as before. -/
def Keeps (limit count : Nat) (p : Parser α) : Prop :=
  ∀ kinds, openAfter? limit count (p.history kinds) = some count

namespace Keeps

variable {α β : Type} {limit count : Nat} {p : Parser α}

protected theorem bind {f : α → Parser β} (hp : Keeps limit count p)
    (hf : ∀ a, Keeps limit count (f a)) : Keeps limit count (p >>= f) := by
  intro kinds
  rw [history_bind, openAfter?_append (hp kinds)]
  cases p.run kinds with
  | ok result => exact hf result.1 result.2
  | error failure => rfl

protected theorem choose {f : TokenKind → Option (Parser α)} {otherwise : Parser α}
    (hf : ∀ kind p, f kind = some p → Keeps limit count p) (ho : Keeps limit count otherwise) :
    Keeps limit count (choose f otherwise) := by
  intro kinds
  cases kinds with
  | nil => exact ho []
  | cons kind kinds =>
    dsimp only [choose]
    split
    · rename_i p hp
      exact hf kind p hp kinds
    · exact ho (kind :: kinds)

/-- Each round of a repetition keeps the count. -/
protected theorem many {next : TokenKind → Option (Parser α)}
    (h : ∀ kind p, next kind = some p → Keeps limit count p) : Keeps limit count (many next) := by
  intro kinds
  change openAfter? limit count (historyMany next kinds) = _
  fun_induction historyMany next kinds with
  | case1 => rfl
  | case2 => rfl
  | case3 kind kinds p hp => exact h kind p hp kinds
  | case4 kind kinds p hp a rest hr _ ih => rw [openAfter?_append (h kind p hp kinds), ih]

/-- One more is opened below the limit, and closed again at the end. -/
protected theorem nest {p : Unit → Parser α} (h : Keeps limit (count + 1) (p ()))
    (hlimit : count < limit) : Keeps limit count (nest p) := by
  intro kinds
  have hopened : openAfter? limit count [.opened] = some (count + 1) := by
    simp [openAfter?, NestingEvent.next?, hlimit]
  have hclosed : openAfter? limit (count + 1) [.closed] = some count := by
    simp [openAfter?, NestingEvent.next?]
  change openAfter? limit count ([.opened] ++ ((p ()).history kinds ++ [.closed])) = _
  rw [openAfter?_append hopened, openAfter?_append (h kinds), hclosed]

protected theorem refuse (n : Nat) : Keeps limit limit (refuse n : Parser α) := by
  intro kinds
  simp [refuse, openAfter?, NestingEvent.next?]

end Keeps

/-- Parsers that are put together from parsers that keep the count keep it. -/
theorem Alike.keeps {Base : ∀ {α : Type}, Parser α → Parser α → Prop} {limit count : Nat}
    (hbase : ∀ {α : Type} {p q : Parser α}, Base p q → Keeps limit count p) {p q : Parser α}
    (h : Alike Base p q) : Keeps limit count p := by
  induction h with
  | base h => exact hbase h
  | pure a => exact fun _ => rfl
  | bind _ _ hp hf => exact hp.bind hf
  | unexpected => exact fun _ => rfl
  | peek _ _ h => exact fun kinds => h kinds.head? kinds
  | chooseOf _ hs _ _ hf ho => exact .choose (forall_of_isSome_eq hs hf) ho
  | manyOf _ hs _ hf => exact .many (forall_of_isSome_eq hs hf)

/-- With so many levels left as the count is below the limit. -/
theorem nested_keeps (o : ParserOptions) (left count : Nat) :
    (nested o left).Alike (fun p _ => Keeps (count + left) count p) (nested o left) := by
  induction left generalizing count with
  | zero => exact ⟨.base (.refuse _), .base (.refuse _)⟩
  | succ left ih =>
    have hn := ih (count + 1)
    rw [Nat.succ_add_eq_add_succ] at hn
    have hlimit : count < count + (left + 1) := Nat.lt_add_of_pos_right left.succ_pos
    have hexpr : Keeps _ count (nest fun _ => disjunction (nested o left)) :=
      .nest ((Alike.disjunction (.predicate hn)).keeps id) hlimit
    have hselect : Keeps _ count (nest fun _ => selectBody o (nested o left)) :=
      .nest ((Alike.selectBody (.tableRef rfl (.base fun _ => rfl) hn) hn).keeps id) hlimit
    exact ⟨.base hexpr, .base hselect⟩

theorem statement_keeps (o : ParserOptions) : Keeps o.maxDepth 0 (statement o) := by
  have hn := nested_keeps o o.maxDepth 0
  rw [Nat.zero_add] at hn
  exact (Alike.statement (fun _ h => h.keeps id) hn).keeps id

theorem soleStatement_keeps (o : ParserOptions) : Keeps o.maxDepth 0 (soleStatement o) := by
  have hn := nested_keeps o o.maxDepth 0
  rw [Nat.zero_add] at hn
  exact (Alike.soleStatement (fun _ h => h.keeps id) hn).keeps id

end SqlSyntax
