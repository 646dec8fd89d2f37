import SqlSyntax.Proofs.Course.Basic
import SqlSyntax.Proofs.Course.Trace

/-!
# Parsers follow a course

Whatever tokens come, the trace of a parser is a course from the cursor where the parser begins to
the one where it stops, be it with a value or with a failure.
-/
namespace SqlSyntax

open SqlSyntax.Parser

variable {α β : Type} {tokens : List Token} {kinds rest : List TokenKind} {kind : TokenKind}

/-! ## Where runs stop -/

/-- The kinds that are left where a run stops. -/
def Parser.stop (p : Parser α) (kinds : List TokenKind) : List TokenKind :=
  match p.run kinds with
  | .ok (_, rest) => rest
  | .error failure => failure.rest

theorem stop_of_ok {p : Parser α} {a : α} (h : p.run kinds = .ok (a, rest)) :
    p.stop kinds = rest := by
  simp only [Parser.stop, h]

theorem stop_of_error {p : Parser α} {failure : Failure} (h : p.run kinds = .error failure) :
    p.stop kinds = failure.rest := by
  simp only [Parser.stop, h]

theorem stop_suffix (p : Parser α) (kinds : List TokenKind) : p.stop kinds <:+ kinds := by
  have hp := p.within kinds
  cases hr : p.run kinds with
  | ok result =>
    rw [hr] at hp
    rw [stop_of_ok hr]
    exact hp
  | error failure =>
    rw [hr] at hp
    rw [stop_of_error hr]
    exact hp.1.trans hp.2

theorem stop_bind (p : Parser α) (f : α → Parser β) (kinds : List TokenKind) :
    (p >>= f).stop kinds =
      match p.run kinds with
      | .ok (a, rest) => (f a).stop rest
      | .error failure => failure.rest := by
  rw [Parser.stop, run_bind]
  cases p.run kinds <;> rfl

/-- A repetition stops where what is left to repeat after its first round stops. -/
theorem stop_many_of_some {next : TokenKind → Option (Parser α)} {p : Parser α}
    (h : next kind = some p) (kinds : List TokenKind) :
    (many next).stop (kind :: kinds) =
      match p.run kinds with
      | .ok (_, rest) => (many next).stop rest
      | .error failure => failure.rest := by
  rw [Parser.stop, run_many_of_some h, ← Parser.stop, stop_bind]
  cases p.run kinds with
  | error failure => rfl
  | ok result =>
    dsimp only
    rw [stop_bind, Parser.stop]
    cases (many next).run result.2 <;> rfl

/-! ## Cursors of places -/

/-- The kinds are those of the last tokens. -/
def Ahead (tokens : List Token) (kinds : List TokenKind) : Prop := kinds <:+ tokens.map Token.kind

theorem Ahead.length_le (h : Ahead tokens kinds) : kinds.length ≤ tokens.length := by
  have := List.IsSuffix.length_le h
  rwa [List.length_map] at this

theorem Ahead.of_suffix (h : Ahead tokens kinds) (hrest : rest <:+ kinds) : Ahead tokens rest :=
  hrest.trans h

theorem Ahead.cursorAt_cons (h : Ahead tokens (kind :: kinds)) :
    cursorAt tokens kinds = cursorAt tokens (kind :: kinds) + 1 := by
  have := h.length_le
  simp only [cursorAt, List.length_cons] at this ⊢
  omega

theorem Ahead.kindAt_cursorAt (h : Ahead tokens (kind :: kinds)) :
    kindAt tokens (cursorAt tokens (kind :: kinds)) = kind := by
  obtain ⟨u, hu⟩ := h
  have hlength : tokens.length = u.length + (kind :: kinds).length := by
    rw [← List.length_append, hu, List.length_map]
  have hcursor : cursorAt tokens (kind :: kinds) = u.length := by
    rw [cursorAt, hlength]
    omega
  rw [hcursor, kindAt, ← List.getElem?_map, ← hu]
  simp

theorem ne_of_accepted {f : TokenKind → Option β} {b : β} (hend : f .endOfInput = none)
    (hk : f kind = some b) : kind ≠ .endOfInput := by
  rintro rfl
  cases hend.symm.trans hk

/-- After a kind is consumed a run goes on. -/
theorem Ahead.consumed (h : Ahead tokens (kind :: kinds)) (hk : kind ≠ .endOfInput)
    {events : List (TraceEvent Nat)} {start j : Nat}
    (hcourse : Course tokens start (cursorAt tokens kinds) events j) :
    Course tokens start (cursorAt tokens (kind :: kinds))
      (.consumed (cursorAt tokens (kind :: kinds)) :: events) j := by
  rw [h.cursorAt_cons] at hcourse
  exact .consumed (by rwa [h.kindAt_cursorAt]) hcourse

/-! ## Courses -/

/-- The trace with cursors for places. -/
def Parser.events (p : Parser α) (tokens : List Token) (kinds : List TokenKind) :
    List (TraceEvent Nat) :=
  (p.trace kinds).map (.map (cursorAt tokens))

theorem events_bind (p : Parser α) (f : α → Parser β) (tokens : List Token)
    (kinds : List TokenKind) :
    (p >>= f).events tokens kinds = p.events tokens kinds ++
      match p.run kinds with
      | .ok (a, rest) => (f a).events tokens rest
      | .error _ => [] := by
  rw [Parser.events, trace_bind, List.map_append]
  cases p.run kinds <;> rfl

theorem events_many_of_some {next : TokenKind → Option (Parser α)} {p : Parser α}
    (h : next kind = some p) (tokens : List Token) (kinds : List TokenKind) :
    (many next).events tokens (kind :: kinds) =
      .consumed (cursorAt tokens (kind :: kinds)) :: (p.events tokens kinds ++
        match p.run kinds with
        | .ok (_, rest) => .again (cursorAt tokens (kind :: kinds)) (cursorAt tokens rest) ::
            (many next).events tokens rest
        | .error _ => []) := by
  rw [Parser.events, trace_many_of_some h, List.map_cons, List.map_append]
  cases p.run kinds <;> rfl

theorem events_nest (p : Unit → Parser α) (tokens : List Token) (kinds : List TokenKind) :
    (nest p).events tokens kinds = .begun none (cursorAt tokens kinds) ::
      ((((p ()).trace kinds).map (.inside kinds)).map (.map (cursorAt tokens)) ++
        match (p ()).run kinds with
        | .ok (_, rest) => [.finished (cursorAt tokens kinds) (cursorAt tokens rest)]
        | .error _ => []) := by
  simp only [Parser.events, nest, List.map_cons, List.map_append]
  cases (p ()).run kinds <;> rfl

/-- The trace of each run is a course from where the run begins to where it stops. -/
def HasCourse (p : Parser α) : Prop :=
  ∀ tokens kinds, Ahead tokens kinds →
    Course tokens (cursorAt tokens kinds) (cursorAt tokens kinds) (p.events tokens kinds)
      (cursorAt tokens (p.stop kinds))

namespace HasCourse

variable {p : Parser α}

protected theorem pure (a : α) : HasCourse (pure a) := fun _ _ _ => .stop

protected theorem unexpected (expected : Expectation) :
    HasCourse (unexpected expected : Parser α) := fun _ _ _ => .stop

protected theorem bind {f : α → Parser β} (hp : HasCourse p) (hf : ∀ a, HasCourse (f a)) :
    HasCourse (p >>= f) := by
  intro tokens kinds h
  have hfirst := hp tokens kinds h
  rw [stop_bind, events_bind]
  cases hr : p.run kinds with
  | error failure =>
    rw [stop_of_error hr] at hfirst
    exact hfirst.append .stop
  | ok result =>
    rw [stop_of_ok hr] at hfirst
    have hsecond := hf result.1 tokens result.2 (h.of_suffix (suffix_of_run hr))
    exact hfirst.append (hsecond.mono hfirst.le)

protected theorem validate (hp : HasCourse p) (test : α → Option ParseCause) :
    HasCourse (p.validate test) := by
  intro tokens kinds h
  have hstop : (p.validate test).stop kinds = p.stop kinds := by
    simp only [Parser.stop, Parser.validate]
    cases p.run kinds with
    | error failure => rfl
    | ok result => cases hc : test result.1 <;> simp [hc]
  have hcourse := hp tokens kinds h
  rwa [← hstop] at hcourse

/-- What is consumed is no end marker, as none is accepted. -/
protected theorem choose {f : TokenKind → Option (Parser α)} {otherwise : Parser α}
    (hend : f .endOfInput = none) (hf : ∀ kind p, f kind = some p → HasCourse p)
    (ho : HasCourse otherwise) : HasCourse (choose f otherwise) := by
  intro tokens kinds h
  cases kinds with
  | nil => exact ho tokens [] h
  | cons kind kinds =>
    cases hk : f kind with
    | none =>
      have hnone : ∀ k ∈ (kind :: kinds).head?, f k = none := by simpa using hk
      have hcourse := ho tokens (kind :: kinds) h
      rwa [Parser.stop, Parser.events, ← run_choose_of_none otherwise hnone,
        ← trace_choose_of_none otherwise hnone] at hcourse
    | some p =>
      have hcourse := hf kind p hk tokens kinds (h.of_suffix (List.suffix_cons kind kinds))
      have hcursor := h.cursorAt_cons
      have hstop : (choose f otherwise).stop (kind :: kinds) = p.stop kinds := by
        simp only [Parser.stop, run_choose_cons, hk]
      rw [hstop, Parser.events, trace_choose_of_some hk]
      exact h.consumed (ne_of_accepted hend hk) (hcourse.mono (by omega))

/-- Each round consumes a kind before the repetition looks whether to go on. -/
protected theorem many {next : TokenKind → Option (Parser α)} (hend : next .endOfInput = none)
    (hnext : ∀ kind p, next kind = some p → HasCourse p) : HasCourse (many next) := by
  intro tokens kinds
  induction kinds using rounds_induction next with
  | hstop kinds hnone =>
    intro _
    rw [Parser.events, trace_many_of_head? hnone, Parser.stop, run_many_of_head? hnone]
    exact .stop
  | hround kind kinds p hk ih =>
    intro h
    have hkinds := h.of_suffix (List.suffix_cons kind kinds)
    have hround := hnext kind p hk tokens kinds hkinds
    have hcursor := h.cursorAt_cons
    rw [stop_many_of_some hk, events_many_of_some hk]
    refine h.consumed (ne_of_accepted hend hk) ?_
    cases hr : p.run kinds with
    | error failure =>
      rw [stop_of_error hr] at hround
      exact (hround.mono (by omega)).append .stop
    | ok result =>
      rw [stop_of_ok hr] at hround
      have hlater := ih result.1 result.2 hr (hkinds.of_suffix (suffix_of_run hr))
      have hle := hround.le
      exact (hround.mono (by omega)).append
        (.again (Nat.le_refl _) (by omega) (hlater.mono (by omega)))

/-- What begins within `outer` begins later, and so it may say that it is within. -/
theorem inside {start i j : Nat} {outer : List TokenKind}
    {trace : List (TraceEvent (List TokenKind))} (hstart : start ≤ cursorAt tokens outer)
    (hlater : ∀ place, .begun none place ∈ trace → cursorAt tokens outer < cursorAt tokens place)
    (h : Course tokens start i (trace.map (.map (cursorAt tokens))) j) :
    Course tokens start i ((trace.map (.inside outer)).map (.map (cursorAt tokens))) j := by
  induction trace generalizing i with
  | nil => exact h
  | cons event trace ih =>
    have htail {k : Nat} := ih (i := k) fun place hmem => hlater place (List.mem_cons_of_mem _ hmem)
    cases event with
    | consumed =>
      cases h with
      | consumed hk h => exact .consumed hk (htail h)
    | finished =>
      cases h with
      | finished hle hlt h => exact .finished hle hlt (htail h)
    | again =>
      cases h with
      | again hle hlt h => exact .again hle hlt (htail h)
    | begun within? place =>
      cases h with
      | begun houter h =>
        cases within? with
        | some first => exact .begun houter (htail h)
        | none =>
          refine .begun ?_ (htail h)
          rintro _ ⟨⟩
          exact ⟨hstart, hlater place List.mem_cons_self⟩

protected theorem nest {p : Unit → Parser α} (hp : HasCourse (p ()))
    (hlater : BeginsAfter 1 (p ()))
    (hconsumes : ∀ kinds a rest, (p ()).run kinds = .ok (a, rest) → rest.length < kinds.length) :
    HasCourse (nest p) := by
  intro tokens kinds h
  have hlength := h.length_le
  have hbegins : ∀ place, .begun none place ∈ (p ()).trace kinds →
      cursorAt tokens kinds < cursorAt tokens place := by
    intro place hmem
    have := hlater kinds place hmem
    simp only [cursorAt]
    omega
  have hinside := inside (Nat.le_refl _) hbegins (hp tokens kinds h)
  have hstop : (Parser.nest p).stop kinds = (p ()).stop kinds := rfl
  rw [hstop, events_nest]
  refine .begun nofun (hinside.append ?_)
  cases hr : (p ()).run kinds with
  | error failure => exact .stop
  | ok result =>
    have := hconsumes kinds result.1 result.2 hr
    rw [stop_of_ok hr]
    refine .finished (Nat.le_refl _) ?_ .stop
    simp only [cursorAt]
    omega

protected theorem refuse (limit : Nat) : HasCourse (refuse limit : Parser α) :=
  fun _ _ _ => .begun nofun .stop

end HasCourse

/-! ## Statements -/

/-- Parsers that are put together from parsers that have a course have one. -/
theorem Alike.hasCourse {Base : ∀ {α : Type}, Parser α → Parser α → Prop}
    (hbase : ∀ {α : Type} {p q : Parser α}, Base p q → HasCourse p) {p q : Parser α}
    (h : Alike Base p q) : HasCourse p := by
  induction h with
  | base h => exact hbase h
  | pure a => exact .pure a
  | bind _ _ hp hf => exact hp.bind hf
  | unexpected => exact .unexpected _
  | peek _ _ h => exact fun tokens kinds => h kinds.head? tokens kinds
  | chooseOf hend hs _ _ hf ho => exact .choose hend (forall_of_isSome_eq hs hf) ho
  | manyOf hend hs _ hf => exact .many hend (forall_of_isSome_eq hs hf)

theorem nested_hasCourse (o : ParserOptions) (left : Nat) :
    (nested o left).Alike (fun p _ => HasCourse p) (nested o left) := by
  induction left with
  | zero => exact ⟨.base (.refuse _), .base (.refuse _)⟩
  | succ left ih =>
    have hbegins := nested_beginsAfter o left
    have hexpr : HasCourse (nest fun _ => disjunction (nested o left)) :=
      .nest ((Alike.disjunction (.predicate ih)).hasCourse id)
        (deferred_beginsAfter.disjunction hbegins)
        fun _ _ _ h => length_lt_of_expr (show (nested o (left + 1)).expr.run _ = _ from h)
    have hselect : HasCourse (nest fun _ => selectBody o (nested o left)) :=
      .nest ((Alike.selectBody (.tableRef rfl (.base (.unexpected _)) ih) ih).hasCourse id)
        (deferred_beginsAfter.selectBody hbegins o)
        fun _ _ _ h => length_lt_of_select (show (nested o (left + 1)).select.run _ = _ from h)
    exact ⟨.base hexpr, .base hselect⟩

theorem checksRows_hasCourse : Alike.ChecksRows fun p _ => HasCourse p :=
  fun _ h => (h.hasCourse id).validate _

theorem statement_hasCourse (o : ParserOptions) : HasCourse (statement o) :=
  (Alike.statement checksRows_hasCourse (nested_hasCourse o o.maxDepth)).hasCourse id

theorem soleStatement_hasCourse (o : ParserOptions) : HasCourse (soleStatement o) :=
  (Alike.soleStatement checksRows_hasCourse (nested_hasCourse o o.maxDepth)).hasCourse id

end SqlSyntax
