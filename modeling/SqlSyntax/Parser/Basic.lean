import SqlSyntax.Parser.Error

/-!
# Parsers over token kinds

A parser reads kinds from the front of a list and gives a value with the kinds that are
left. The input ends at the first end marker, or at the end of the list if there is no marker.
A failure names the kinds from the blamed one on, and the kinds that are left when the
parser stops. Whatever the outcome, what is left is a final part of what was given; the
type of parsers keeps that fact, and repetition ends because of it.

Every parser decides by the first kind that is left. Where a kind is accepted it is
consumed; no parser goes back.

Beside its outcome a run has a history: the expressions and queries that it opens and closes,
whatever its outcome. It has a trace too: where it consumes a kind, begins an expression or a
query, or goes round. Nothing that is run reads these; limits of nesting speak about the history,
and the ends of recursions and loops about the trace.
-/
namespace SqlSyntax

structure Failure where
  cause : ParseCause
  blamed : List TokenKind
  rest : List TokenKind

/-- The kinds that an outcome speaks about are final parts of the kinds given. -/
def WithinInput {α : Type} (kinds : List TokenKind) :
    Except Failure (α × List TokenKind) → Prop
  | .ok (_, rest) => rest <:+ kinds
  | .error f => f.rest <:+ f.blamed ∧ f.blamed <:+ kinds

theorem WithinInput.mono {α : Type} {kinds given : List TokenKind} (h : kinds <:+ given)
    {o : Except Failure (α × List TokenKind)} (ho : WithinInput kinds o) :
    WithinInput given o := by
  match o with
  | .ok _ => exact List.IsSuffix.trans ho h
  | .error _ => exact ⟨ho.1, ho.2.trans h⟩

/-- What happens to the expressions and queries that are open inside one another: one more
is opened, the last one is closed, or another is refused. -/
inductive NestingEvent where
  | opened
  | closed
  | refused
  deriving DecidableEq, Inhabited

/-- What a run does, and at which place. -/
inductive TraceEvent (Place : Type) where
  /-- The kind at the place is consumed. -/
  | consumed (place : Place)
  /-- An expression or a query is begun, within the one that was begun at `outer` and is not
  finished, if there is such a one. -/
  | begun (outer : Option Place) (place : Place)
  /-- The expression or query that was begun at `start` has been read up to the place. -/
  | finished (start place : Place)
  /-- A repetition looks whether to go on, as it did at `last` before the round that is over. -/
  | again (last place : Place)

namespace TraceEvent

variable {Place Place' : Type}

def map (f : Place → Place') : TraceEvent Place → TraceEvent Place'
  | consumed place => consumed (f place)
  | begun outer place => begun (outer.map f) (f place)
  | finished start place => finished (f start) (f place)
  | again last place => again (f last) (f place)

/-- The same event within what was begun at `outer`. What is within something else stays there. -/
def inside (outer : Place) : TraceEvent Place → TraceEvent Place
  | begun none place => begun (some outer) place
  | event => event

end TraceEvent

/-- Places of the trace are the kinds that are left. -/
structure Parser (α : Type) where
  run : List TokenKind → Except Failure (α × List TokenKind)
  within : ∀ kinds, WithinInput kinds (run kinds)
  history : List TokenKind → List NestingEvent
  trace : List TokenKind → List (TraceEvent (List TokenKind))

namespace Parser

variable {α β : Type}

theorem suffix_of_run {p : Parser α} {kinds rest : List TokenKind} {a : α}
    (h : p.run kinds = .ok (a, rest)) : rest <:+ kinds := by
  simpa [h, WithinInput] using p.within kinds

@[ext] theorem ext {p q : Parser α} (hrun : ∀ kinds, p.run kinds = q.run kinds)
    (hhistory : ∀ kinds, p.history kinds = q.history kinds)
    (htrace : ∀ kinds, p.trace kinds = q.trace kinds) : p = q := by
  obtain ⟨run, within, history, trace⟩ := p
  obtain ⟨run', within', history', trace'⟩ := q
  obtain rfl : run = run' := funext hrun
  obtain rfl : history = history' := funext hhistory
  obtain rfl : trace = trace' := funext htrace
  rfl

/-! ## Sequences -/

/-- Reads nothing. -/
protected def pure (a : α) : Parser α where
  run kinds := .ok (a, kinds)
  within kinds := List.suffix_refl kinds
  history _ := []
  trace _ := []

/-- One parser, then another that may depend on the value of the first. -/
protected def bind (p : Parser α) (f : α → Parser β) : Parser β where
  run kinds :=
    match p.run kinds with
    | .ok (a, rest) => (f a).run rest
    | .error failure => .error failure
  within kinds := by
    have hp := p.within kinds
    split
    · rename_i a rest h
      rw [h] at hp
      exact WithinInput.mono hp ((f a).within rest)
    · rename_i failure h
      rw [h] at hp
      exact hp
  history kinds :=
    p.history kinds ++
      match p.run kinds with
      | .ok (a, rest) => (f a).history rest
      | .error _ => []
  trace kinds :=
    p.trace kinds ++
      match p.run kinds with
      | .ok (a, rest) => (f a).trace rest
      | .error _ => []

instance : Monad Parser where
  pure := Parser.pure
  bind := Parser.bind

@[simp] theorem run_pure (a : α) (kinds : List TokenKind) :
    (pure a : Parser α).run kinds = .ok (a, kinds) := rfl

theorem run_bind (p : Parser α) (f : α → Parser β) (kinds : List TokenKind) :
    (p >>= f).run kinds =
      match p.run kinds with
      | .ok (a, rest) => (f a).run rest
      | .error failure => .error failure := rfl

theorem history_bind (p : Parser α) (f : α → Parser β) (kinds : List TokenKind) :
    (p >>= f).history kinds = p.history kinds ++
      match p.run kinds with
      | .ok (a, rest) => (f a).history rest
      | .error _ => [] := rfl

theorem trace_bind (p : Parser α) (f : α → Parser β) (kinds : List TokenKind) :
    (p >>= f).trace kinds = p.trace kinds ++
      match p.run kinds with
      | .ok (a, rest) => (f a).trace rest
      | .error _ => [] := rfl

theorem run_bind_of_ok {p : Parser α} {f : α → Parser β} {kinds middle : List TokenKind} {a : α}
    (h : p.run kinds = .ok (a, middle)) : (p >>= f).run kinds = (f a).run middle := by
  rw [run_bind, h]

theorem run_bind_congr {p : Parser α} {f g : α → Parser β} {kinds : List TokenKind}
    (h : ∀ a rest, p.run kinds = .ok (a, rest) → (f a).run rest = (g a).run rest) :
    (p >>= f).run kinds = (p >>= g).run kinds := by
  rw [run_bind, run_bind]
  cases hp : p.run kinds with
  | error failure => rfl
  | ok result => exact h _ _ hp

theorem run_bind_eq_ok_iff {p : Parser α} {f : α → Parser β} {kinds rest : List TokenKind}
    {b : β} :
    (p >>= f).run kinds = .ok (b, rest) ↔
      ∃ a middle, p.run kinds = .ok (a, middle) ∧ (f a).run middle = .ok (b, rest) := by
  rw [run_bind]
  cases p.run kinds with
  | error failure => simp
  | ok result =>
    constructor
    · intro h
      exact ⟨result.1, result.2, rfl, h⟩
    · rintro ⟨a, middle, h, hf⟩
      cases h
      exact hf

/-- Of two parsers one after another the first one fails, or the second one does where the first
one stops. -/
theorem run_bind_eq_error_iff {p : Parser α} {f : α → Parser β} {kinds : List TokenKind}
    {failure : Failure} :
    (p >>= f).run kinds = .error failure ↔ p.run kinds = .error failure ∨
      ∃ a middle, p.run kinds = .ok (a, middle) ∧ (f a).run middle = .error failure := by
  rw [run_bind]
  cases p.run kinds with
  | error failure' => simp
  | ok result =>
    constructor
    · intro h
      exact .inr ⟨result.1, result.2, rfl, h⟩
    · rintro (h | ⟨a, middle, h, hf⟩)
      · cases h
      · cases h
        exact hf

protected theorem bind_pure (p : Parser α) : p >>= pure = p := by
  refine ext (fun kinds => ?_) (fun kinds => ?_) fun kinds => ?_
  · rw [run_bind]
    cases p.run kinds <;> rfl
  · rw [history_bind]
    cases p.run kinds <;> exact List.append_nil _
  · rw [trace_bind]
    cases p.run kinds <;> exact List.append_nil _

protected theorem bind_assoc {γ : Type} (p : Parser α) (f : α → Parser β) (g : β → Parser γ) :
    p >>= f >>= g = p >>= fun a => f a >>= g := by
  refine ext (fun kinds => ?_) (fun kinds => ?_) fun kinds => ?_
  · simp only [run_bind]
    cases p.run kinds <;> rfl
  · simp only [history_bind, run_bind]
    cases p.run kinds with
    | ok result => exact List.append_assoc ..
    | error failure => rw [List.append_nil, List.append_nil]
  · simp only [trace_bind, run_bind]
    cases p.run kinds with
    | ok result => exact List.append_assoc ..
    | error failure => rw [List.append_nil, List.append_nil]

instance : LawfulMonad Parser :=
  .mk' Parser Parser.bind_pure (fun _ _ => rfl) fun p f g => Parser.bind_assoc p f g

/-! ## Failures -/

/-- Fails and blames the next kind. -/
def fail (cause : List TokenKind → ParseCause) : Parser α where
  run kinds := .error ⟨cause kinds, kinds, kinds⟩
  within kinds := ⟨List.suffix_refl kinds, List.suffix_refl kinds⟩
  history _ := []
  trace _ := []

/-- Fails because something else is expected. -/
def unexpected (expected : Expectation) : Parser α := fail (.unexpected expected)

@[simp] theorem run_unexpected (expected : Expectation) (kinds : List TokenKind) :
    (unexpected expected : Parser α).run kinds =
      .error ⟨.unexpected expected kinds, kinds, kinds⟩ := rfl

@[simp] theorem run_fail (cause : List TokenKind → ParseCause) (kinds : List TokenKind) :
    (fail cause : Parser α).run kinds = .error ⟨cause kinds, kinds, kinds⟩ := rfl

/-- Fails where `p` began, but with what `p` read consumed, if `test` finds a fault in the
value of `p`. -/
def validate (p : Parser α) (test : α → Option ParseCause) : Parser α where
  run kinds :=
    match p.run kinds with
    | .error failure => .error failure
    | .ok (a, rest) =>
      match test a with
      | none => .ok (a, rest)
      | some cause => .error ⟨cause, kinds, rest⟩
  within kinds := by
    have hp := p.within kinds
    split
    · rename_i failure h
      rw [h] at hp
      exact hp
    · rename_i a rest h
      rw [h] at hp
      split
      · exact hp
      · exact ⟨hp, List.suffix_refl kinds⟩
  history := p.history
  trace := p.trace

/-! ## Nesting -/

/-- One more expression or query inside those that are open. It is closed again whether or
not it could be read. It is built when it is first run: nested syntax needs as many parsers
inside one another as the limit allows, and only those that the input reaches are built. -/
def nest (p : Unit → Parser α) : Parser α where
  run kinds := (p ()).run kinds
  within kinds := (p ()).within kinds
  history kinds := .opened :: ((p ()).history kinds ++ [.closed])
  trace kinds :=
    .begun none kinds :: (((p ()).trace kinds).map (.inside kinds) ++
      match (p ()).run kinds with
      | .ok (_, rest) => [.finished kinds rest]
      | .error _ => [])

/-- Fails because no more expressions and queries may be open. -/
def refuse (limit : Nat) : Parser α where
  run kinds := .error ⟨.tooDeep limit, kinds, kinds⟩
  within kinds := ⟨List.suffix_refl kinds, List.suffix_refl kinds⟩
  history _ := [.refused]
  trace kinds := [.begun none kinds]

/-! ## Decisions -/

/-- Decides by the next kind, which is not consumed. At the end of the list there is none. -/
def peek (f : Option TokenKind → Parser α) : Parser α where
  run kinds := (f kinds.head?).run kinds
  within kinds := (f kinds.head?).within kinds
  history kinds := (f kinds.head?).history kinds
  trace kinds := (f kinds.head?).trace kinds

@[simp] theorem run_peek (f : Option TokenKind → Parser α) (kinds : List TokenKind) :
    (peek f).run kinds = (f kinds.head?).run kinds := rfl

/-- Consumes the next kind if `f` has a parser for what follows it, and runs that; runs
`otherwise` if not. -/
def choose (f : TokenKind → Option (Parser α)) (otherwise : Parser α) : Parser α where
  run
    | [] => otherwise.run []
    | kind :: kinds =>
      match f kind with
      | some p => p.run kinds
      | none => otherwise.run (kind :: kinds)
  within
    | [] => otherwise.within []
    | kind :: kinds => by
      dsimp only
      split
      · rename_i p _
        exact WithinInput.mono (List.suffix_cons kind kinds) (p.within kinds)
      · exact otherwise.within (kind :: kinds)
  history
    | [] => otherwise.history []
    | kind :: kinds =>
      match f kind with
      | some p => p.history kinds
      | none => otherwise.history (kind :: kinds)
  trace
    | [] => otherwise.trace []
    | kind :: kinds =>
      match f kind with
      | some p => .consumed (kind :: kinds) :: p.trace kinds
      | none => otherwise.trace (kind :: kinds)

@[simp] theorem run_choose_nil (f : TokenKind → Option (Parser α)) (otherwise : Parser α) :
    (choose f otherwise).run [] = otherwise.run [] := rfl

theorem run_choose_cons (f : TokenKind → Option (Parser α)) (otherwise : Parser α)
    (kind : TokenKind) (kinds : List TokenKind) :
    (choose f otherwise).run (kind :: kinds) =
      match f kind with
      | some p => p.run kinds
      | none => otherwise.run (kind :: kinds) := rfl

theorem run_choose_of_none {f : TokenKind → Option (Parser α)} (otherwise : Parser α)
    {kinds : List TokenKind} (h : ∀ kind ∈ kinds.head?, f kind = none) :
    (choose f otherwise).run kinds = otherwise.run kinds := by
  cases kinds with
  | nil => rfl
  | cons kind kinds => rw [run_choose_cons, h kind rfl]

/-! ## Repetition -/

/-- As long as `next` has a parser for what follows the next kind, consumes the kind and
runs that parser. -/
def runMany (next : TokenKind → Option (Parser α)) :
    List TokenKind → Except Failure (List α × List TokenKind)
  | [] => .ok ([], [])
  | kind :: kinds =>
    match next kind with
    | none => .ok ([], kind :: kinds)
    | some p =>
      match h : p.run kinds with
      | .error failure => .error failure
      | .ok (a, rest) =>
        have := (suffix_of_run h).length_le
        match runMany next rest with
        | .error failure => .error failure
        | .ok (as, last) => .ok (a :: as, last)
termination_by kinds => kinds.length

theorem runMany_within (next : TokenKind → Option (Parser α)) (kinds : List TokenKind) :
    WithinInput kinds (runMany next kinds) := by
  fun_induction runMany next kinds with
  | case1 => exact List.suffix_refl []
  | case2 kind kinds => exact List.suffix_refl (kind :: kinds)
  | case3 kind kinds p _ failure h =>
    have hp := p.within kinds
    rw [h] at hp
    exact WithinInput.mono (List.suffix_cons kind kinds) hp
  | case4 kind kinds p _ a rest h _ failure hf ih =>
    rw [hf] at ih
    exact WithinInput.mono ((suffix_of_run h).trans (List.suffix_cons kind kinds)) ih
  | case5 kind kinds p _ a rest h _ as last hl ih =>
    rw [hl] at ih
    exact WithinInput.mono (α := List α) (o := .ok (as, last))
      ((suffix_of_run h).trans (List.suffix_cons kind kinds)) ih

/-- The rounds of a repetition one after another. -/
def historyMany (next : TokenKind → Option (Parser α)) : List TokenKind → List NestingEvent
  | [] => []
  | kind :: kinds =>
    match next kind with
    | none => []
    | some p =>
      match h : p.run kinds with
      | .error _ => p.history kinds
      | .ok (_, rest) =>
        have := (suffix_of_run h).length_le
        p.history kinds ++ historyMany next rest
termination_by kinds => kinds.length

def traceMany (next : TokenKind → Option (Parser α)) :
    List TokenKind → List (TraceEvent (List TokenKind))
  | [] => []
  | kind :: kinds =>
    match next kind with
    | none => []
    | some p =>
      .consumed (kind :: kinds) ::
        match h : p.run kinds with
        | .error _ => p.trace kinds
        | .ok (_, rest) =>
          have := (suffix_of_run h).length_le
          p.trace kinds ++ .again (kind :: kinds) rest :: traceMany next rest
termination_by kinds => kinds.length

def many (next : TokenKind → Option (Parser α)) : Parser (List α) where
  run := runMany next
  within := runMany_within next
  history := historyMany next
  trace := traceMany next

@[simp] theorem run_many_nil (next : TokenKind → Option (Parser α)) :
    (many next).run [] = .ok ([], []) := by
  simp [many, runMany]

theorem run_many_of_none {next : TokenKind → Option (Parser α)} {kind : TokenKind}
    (h : next kind = none) (kinds : List TokenKind) :
    (many next).run (kind :: kinds) = .ok ([], kind :: kinds) := by
  simp [many, runMany, h]

theorem run_many_of_head? {next : TokenKind → Option (Parser α)} {kinds : List TokenKind}
    (h : ∀ kind ∈ kinds.head?, next kind = none) : (many next).run kinds = .ok ([], kinds) := by
  cases kinds with
  | nil => exact run_many_nil next
  | cons kind kinds => exact run_many_of_none (h kind rfl) kinds

theorem run_many_of_some {next : TokenKind → Option (Parser α)} {kind : TokenKind}
    {p : Parser α} (h : next kind = some p) (kinds : List TokenKind) :
    (many next).run (kind :: kinds) =
      (p >>= fun a => many next >>= fun as => pure (a :: as)).run kinds := by
  simp only [many, runMany, h, run_bind, run_pure]
  split
  · rename_i h'
    rw [h']
  · rename_i a rest h'
    rw [h']
    dsimp only
    cases runMany next rest <;> rfl

/-- A repetition that begins at all consumes the kind that it begins with. -/
theorem run_many_suffix {next : TokenKind → Option (Parser α)} {kind : TokenKind}
    {p : Parser α} (h : next kind = some p) {kinds rest : List TokenKind} {as : List α}
    (hr : (many next).run (kind :: kinds) = .ok (as, rest)) : rest <:+ kinds := by
  rw [run_many_of_some h] at hr
  exact suffix_of_run hr

/-! ## Tokens and lists -/

/-- Reads one kind. -/
def expect (kind : TokenKind) : Parser Unit :=
  choose (fun k => if k = kind then some (pure ()) else none) (unexpected (.token kind))

@[simp] theorem run_expect_self (kind : TokenKind) (kinds : List TokenKind) :
    (expect kind).run (kind :: kinds) = .ok ((), kinds) := by
  simp [expect, run_choose_cons]

@[simp] theorem run_expect_bind (kind : TokenKind) (f : Unit → Parser α)
    (kinds : List TokenKind) : (expect kind >>= f).run (kind :: kinds) = (f ()).run kinds :=
  run_bind_of_ok (run_expect_self kind kinds)

theorem run_expect_of_head?_ne {kind : TokenKind} {kinds : List TokenKind}
    (h : kinds.head? ≠ some kind) :
    (expect kind).run kinds = .error ⟨.unexpected (.token kind) kinds, kinds, kinds⟩ := by
  cases kinds with
  | nil => rfl
  | cons k ks => simp_all [expect, run_choose_cons]

/-- Reads a kind if it comes next, and says whether it did. -/
def skip (kind : TokenKind) : Parser Bool :=
  choose (fun k => if k = kind then some (pure true) else none) (pure false)

@[simp] theorem run_skip_self (kind : TokenKind) (kinds : List TokenKind) :
    (skip kind).run (kind :: kinds) = .ok (true, kinds) := by
  simp [skip, run_choose_cons]

theorem run_skip_of_head?_ne {kind : TokenKind} {kinds : List TokenKind}
    (h : kinds.head? ≠ some kind) : (skip kind).run kinds = .ok (false, kinds) := by
  cases kinds with
  | nil => rfl
  | cons k ks => simp_all [skip, run_choose_cons]

/-- Reads `p` after a kind if the kind comes next; otherwise reads nothing. -/
def after (kind : TokenKind) (p : Parser α) (default : α) : Parser α :=
  choose (fun k => if k = kind then some p else none) (pure default)

@[simp] theorem run_after_self (kind : TokenKind) (p : Parser α) (default : α)
    (kinds : List TokenKind) : (after kind p default).run (kind :: kinds) = p.run kinds := by
  simp [after, run_choose_cons]

theorem run_after_of_head?_ne {kind : TokenKind} {kinds : List TokenKind} (p : Parser α)
    (default : α) (h : kinds.head? ≠ some kind) :
    (after kind p default).run kinds = .ok (default, kinds) := by
  cases kinds with
  | nil => rfl
  | cons k ks => simp_all [after, run_choose_cons]

def identifier : Parser String :=
  choose (fun | .identifier name => some (pure name) | _ => none) (unexpected .identifier)

@[simp] theorem run_identifier (name : String) (kinds : List TokenKind) :
    identifier.run (.identifier name :: kinds) = .ok (name, kinds) := rfl

@[simp] theorem run_identifier_bind (name : String) (f : String → Parser α)
    (kinds : List TokenKind) :
    (identifier >>= f).run (.identifier name :: kinds) = (f name).run kinds := rfl

def integer : Parser Int64 :=
  choose (fun | .literal (.integer n) => some (pure n) | _ => none) (unexpected .integer)

@[simp] theorem run_integer (n : Int64) (kinds : List TokenKind) :
    integer.run (.literal (.integer n) :: kinds) = .ok (n, kinds) := rfl

/-- Reads `p` once or more, with commas between. -/
def commaList (p : Parser α) : Parser (List α) := do
  let first ← p
  let others ← many fun kind => if kind = .comma then some p else none
  return first :: others

/-- Reads nothing, at the end of the input. -/
def atEnd (expected : Expectation) : Parser Unit :=
  peek fun
    | none | some .endOfInput => pure ()
    | some _ => unexpected expected

end Parser

end SqlSyntax
