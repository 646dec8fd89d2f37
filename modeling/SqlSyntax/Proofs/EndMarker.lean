import SqlSyntax.Proofs.Alike.Statement

/-!
# The end marker

Whether there is an end marker, and what comes after it, makes no difference to a parser. With
the tokens before the marker it does what it does with them alone, and it stops before the
marker.
-/
namespace SqlSyntax

open SqlSyntax.Parser

/-- The input ends where the list begins. -/
def AtEnd (v : List TokenKind) : Prop := ∀ kind ∈ v.head?, kind = .endOfInput

/-- The same outcome where more kinds come after the input. -/
def withRest (v : List TokenKind) :
    Except Failure (α × List TokenKind) → Except Failure (α × List TokenKind)
  | .ok (a, rest) => .ok (a, rest ++ v)
  | .error f => .error ⟨f.cause, f.blamed ++ v, f.rest ++ v⟩

/-- What comes from the end marker on makes no difference to the parser. -/
def StopsAtEnd (p : Parser α) : Prop :=
  ∀ u v, .endOfInput ∉ u → AtEnd v → p.run (u ++ v) = withRest v (p.run u)

theorem ParseCause.unexpected_append (expected : Expectation) (u : List TokenKind)
    {v : List TokenKind} (hv : AtEnd v) :
    unexpected expected (u ++ v) = unexpected expected u := by
  cases u with
  | nil =>
    cases v with
    | nil => rfl
    | cons kind v =>
      obtain rfl := hv kind rfl
      rfl
  | cons kind u => cases kind <;> rfl

/-- The second of two parsers goes on from what the first one leaves. -/
theorem run_bind_withRest {p : Parser α} {f : α → Parser β} {u v : List TokenKind}
    (hp : p.run (u ++ v) = withRest v (p.run u))
    (hf : ∀ a rest, p.run u = .ok (a, rest) →
      (f a).run (rest ++ v) = withRest v ((f a).run rest)) :
    (p >>= f).run (u ++ v) = withRest v ((p >>= f).run u) := by
  rw [run_bind, run_bind, hp]
  cases hr : p.run u with
  | ok result => exact hf result.1 result.2 hr
  | error failure => rfl

namespace StopsAtEnd

variable {α β : Type} {p : Parser α}

protected theorem pure (a : α) : StopsAtEnd (pure a) := fun _ _ _ _ => rfl

protected theorem bind {f : α → Parser β} (hp : StopsAtEnd p) (hf : ∀ a, StopsAtEnd (f a)) :
    StopsAtEnd (p >>= f) := fun u v hu hv =>
  run_bind_withRest (hp u v hu hv) fun a rest hr =>
    hf a rest v (fun h => hu ((suffix_of_run hr).subset h)) hv

protected theorem unexpected (expected : Expectation) :
    StopsAtEnd (unexpected expected : Parser α) := by
  intro u v _ hv
  rw [run_unexpected, run_unexpected, ParseCause.unexpected_append expected u hv]
  rfl

protected theorem validate (hp : StopsAtEnd p) (test : α → Option ParseCause) :
    StopsAtEnd (p.validate test) := by
  intro u v hu hv
  simp only [Parser.validate]
  rw [hp u v hu hv]
  cases p.run u with
  | ok result =>
    dsimp only [withRest]
    cases test result.1 <;> rfl
  | error failure => rfl

protected theorem peek {f : Option TokenKind → Parser α} (hend : f (some .endOfInput) = f none)
    (h : ∀ next, StopsAtEnd (f next)) : StopsAtEnd (peek f) := by
  intro u v hu hv
  have hnext : f (u ++ v).head? = f u.head? := by
    cases u with
    | nil =>
      cases v with
      | nil => rfl
      | cons kind v =>
        obtain rfl := hv kind rfl
        exact hend
    | cons kind u => rfl
  rw [run_peek, run_peek, hnext]
  exact h u.head? u v hu hv

protected theorem choose {f : TokenKind → Option (Parser α)} {otherwise : Parser α}
    (hend : f .endOfInput = none) (hf : ∀ kind p, f kind = some p → StopsAtEnd p)
    (ho : StopsAtEnd otherwise) : StopsAtEnd (choose f otherwise) := by
  intro u v hu hv
  cases u with
  | nil =>
    have hnone : ∀ kind ∈ v.head?, f kind = none := fun kind hk => hv kind hk ▸ hend
    exact (run_choose_of_none otherwise hnone).trans (ho [] v hu hv)
  | cons kind u =>
    rw [List.cons_append, run_choose_cons, run_choose_cons]
    cases hk : f kind with
    | none => exact ho (kind :: u) v hu hv
    | some p => exact hf kind p hk u v (fun h => hu (List.mem_cons_of_mem kind h)) hv

/-- Each round of a repetition stops at the end, and there is none after the last one. -/
protected theorem many {next : TokenKind → Option (Parser α)} (hend : next .endOfInput = none)
    (h : ∀ kind p, next kind = some p → StopsAtEnd p) : StopsAtEnd (many next) := by
  intro u v hu hv
  induction hlength : u.length using Nat.strongRecOn generalizing u with
  | ind n ih =>
    cases u with
    | nil =>
      rw [run_many_nil]
      exact run_many_of_head? fun kind hk => hv kind hk ▸ hend
    | cons kind u =>
      rw [List.cons_append]
      cases hk : next kind with
      | none =>
        rw [run_many_of_none hk, run_many_of_none hk]
        rfl
      | some p =>
        rw [List.mem_cons, not_or] at hu
        rw [run_many_of_some hk, run_many_of_some hk]
        refine run_bind_withRest (h kind p hk u v hu.2 hv) fun a rest hr => ?_
        have hrest := suffix_of_run hr
        have hlt : rest.length < n := hlength ▸ Nat.lt_succ_of_le hrest.length_le
        exact run_bind_withRest (ih _ hlt rest (fun h => hu.2 (hrest.subset h)) rfl)
          fun _ _ _ => rfl

end StopsAtEnd

/-! ## Statements -/

/-- Parsers that are put together from parsers that stop at the end stop there. -/
theorem Alike.stopsAtEnd {Base : ∀ {α : Type}, Parser α → Parser α → Prop}
    (hbase : ∀ {α : Type} {p q : Parser α}, Base p q → StopsAtEnd p) {p q : Parser α}
    (h : Alike Base p q) : StopsAtEnd p := by
  induction h with
  | base h => exact hbase h
  | pure a => exact .pure a
  | bind _ _ hp hf => exact hp.bind hf
  | unexpected => exact .unexpected _
  | peek hend _ h => exact .peek hend h
  | chooseOf hend hs _ _ hf ho => exact .choose hend (forall_of_isSome_eq hs hf) ho
  | manyOf hend hs _ hf => exact .many hend (forall_of_isSome_eq hs hf)

theorem nested_stopsAtEnd (o : ParserOptions) (left : Nat) :
    (nested o left).Alike (fun p _ => StopsAtEnd p) (nested o left) := by
  induction left with
  | zero => exact ⟨.base fun _ _ _ _ => rfl, .base fun _ _ _ _ => rfl⟩
  | succ left ih =>
    have hexpr : StopsAtEnd (nest fun _ => disjunction (nested o left)) :=
      (Alike.disjunction (.predicate ih)).stopsAtEnd id
    have hselect : StopsAtEnd (nest fun _ => selectBody o (nested o left)) :=
      (Alike.selectBody (.tableRef rfl (.base (.unexpected _)) ih) ih).stopsAtEnd id
    exact ⟨.base hexpr, .base hselect⟩

theorem checksRows_stopsAtEnd : Alike.ChecksRows fun p _ => StopsAtEnd p :=
  fun _ h => (h.stopsAtEnd id).validate _

theorem statement_stopsAtEnd (o : ParserOptions) : StopsAtEnd (statement o) :=
  (Alike.statement checksRows_stopsAtEnd (nested_stopsAtEnd o o.maxDepth)).stopsAtEnd id

theorem soleStatement_stopsAtEnd (o : ParserOptions) : StopsAtEnd (soleStatement o) :=
  (Alike.soleStatement checksRows_stopsAtEnd (nested_stopsAtEnd o o.maxDepth)).stopsAtEnd id

end SqlSyntax
