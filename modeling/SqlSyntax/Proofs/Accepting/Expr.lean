import SqlSyntax.Proofs.Accepting.Boundary

/-!
# Expressions are accepted

Each layer of the parser takes a phrase of its layer, all of it and no more, before any
token that does not go on from the layer.
-/
namespace SqlSyntax

open SqlSyntax.Parser Grammar

/-- Before a continuation in `Before` the parser takes a phrase and gives its value. -/
def Accepts (p : Parser α) (L : Language α) (Before : List TokenKind → Prop) : Prop :=
  ∀ {u a rest}, L u a → Before rest → p.run (u ++ rest) = .ok (a, rest)

structure Parser.Nested.Accepts (n : Nested) (g : Inner) : Prop where
  expr : SqlSyntax.Accepts n.expr g.expr (Ends 1)
  select : SqlSyntax.Accepts n.select g.select (Past 9)
  begins_expr : ∀ {u e}, g.expr u e → Begins TokenKind.startsExpr u
  begins_select : ∀ {u q}, g.select u q → ∃ v, u = .keyword .select :: v

namespace Accepts

variable {α : Type} {n : Nested} {g : Inner}

/-! ## Lists and chains -/

theorem skip (kind : TokenKind) :
    Accepts (skip kind) (Flag kind) fun rest => rest.head? ≠ some kind := by
  intro u flag rest hu hrest
  cases hu with
  | absent => exact run_skip_of_head?_ne hrest
  | present => exact run_skip_self kind rest

/-- The phrases that a repetition takes, and what may stand after each of them. -/
structure Step (next : TokenKind → Option (Parser α)) (L : Language α)
    (Before : List TokenKind → Prop) : Prop where
  phrase : ∀ {u a}, L u a → ∃ kind v p, u = kind :: v ∧ next kind = some p ∧
    ∀ {rest}, Before rest → p.run (v ++ rest) = .ok (a, rest)
  before : ∀ {kind p} ks, next kind = some p → Before (kind :: ks)

theorem Step.before_of_many {next : TokenKind → Option (Parser α)} {L : Language α}
    {Before : List TokenKind → Prop} (hs : Step next L Before) {u rest : List TokenKind}
    {as : List α} (hu : Many L u as) (hrest : Before rest) : Before (u ++ rest) := by
  cases hu with
  | nil => exact hrest
  | cons ha _ =>
    obtain ⟨kind, v, p, rfl, hk, -⟩ := hs.phrase ha
    exact hs.before _ hk

/-- A repetition goes on as long as it finds a kind that it takes. -/
theorem many {next : TokenKind → Option (Parser α)} {L : Language α}
    {Before : List TokenKind → Prop} (hs : Step next L Before) :
    Accepts (many next) (Many L)
      fun rest => Before rest ∧ ∀ kind ∈ rest.head?, next kind = none := by
  intro u as rest hu hrest
  induction hu with
  | nil => exact run_many_of_head? hrest.2
  | cons ha hv ih =>
    obtain ⟨kind, w, p, rfl, hk, hp⟩ := hs.phrase ha
    rw [List.append_assoc, List.cons_append, run_many_of_some hk, run_bind,
      hp (hs.before_of_many hv hrest.1)]
    simp only [run_bind, ih, run_pure]

/-- A first phrase and the phrases of a repetition after it. -/
theorem run_chain {β γ : Type} {p : Parser α} {next : TokenKind → Option (Parser β)}
    {L : Language α} {M : Language β} {Before : List TokenKind → Prop}
    (hp : Accepts p L Before) (hs : Step next M Before) (f : α → List β → γ)
    {u v rest : List TokenKind} {a : α} {bs : List β} (hu : L u a) (hv : Many M v bs)
    (hrest : Before rest) (hstop : ∀ kind ∈ rest.head?, next kind = none) :
    (do
      let first ← p
      let others ← Parser.many next
      return f first others).run (u ++ v ++ rest) = .ok (f a bs, rest) := by
  rw [List.append_assoc, run_bind, hp hu (hs.before_of_many hv hrest)]
  simp only [run_bind, many hs hv ⟨hrest, hstop⟩, run_pure]

theorem step_behind {p : Parser α} {L : Language α} {Before : List TokenKind → Prop}
    (kind : TokenKind) (hp : Accepts p L Before) (hb : ∀ ks, Before (kind :: ks)) :
    Step (fun k => if k = kind then some p else none) (Behind kind L) Before where
  phrase := by
    rintro _ a ⟨v, rfl, hv⟩
    exact ⟨kind, v, p, rfl, if_pos rfl, hp hv⟩
  before ks hk := by
    obtain ⟨rfl, -⟩ := Option.ite_some_none_eq_some.mp hk
    exact hb ks

theorem commaList {p : Parser α} {L : Language α} {Before : List TokenKind → Prop}
    (hp : Accepts p L Before) (hb : ∀ ks, Before (.comma :: ks)) :
    Accepts (commaList p) (CommaList L)
      fun rest => Before rest ∧ rest.head? ≠ some .comma := by
  intro w as rest hw hrest
  obtain ⟨u, a, v, others, rfl, rfl, hu, hv⟩ := commaList_iff.mp hw
  have hstop : ∀ kind ∈ rest.head?, kind ≠ .comma := by
    rintro _ hk rfl
    exact hrest.2 hk
  exact run_chain hp (step_behind .comma hp hb) List.cons hu hv hrest.1 fun kind hk =>
    if_neg (hstop kind hk)

theorem leftChain {p : Parser Expr} {L : Language Expr} {layer : Nat}
    {sign : TokenKind → Option Operator}
    (hsign : ∀ {kind operator}, sign kind = some operator → kind.binding = layer)
    (hp : Accepts p L (Ends (layer + 1))) :
    Accepts
      (do
        let first ← p
        let others ← Parser.many fun kind =>
          (sign kind).map fun operator => do return (operator, ← p)
        return first.chainLeft others) (LeftChain sign L) (Ends layer) := by
  intro w e rest hw hrest
  obtain ⟨u, first, v, others, rfl, rfl, hu, hv⟩ := leftChain_iff.mp hw
  refine run_chain hp ⟨?_, ?_⟩ Expr.chainLeft hu hv (hrest.mono (Nat.le_succ layer)) ?_
  · rintro _ ⟨operator, f⟩ ⟨kind, v, rfl, hk, hf⟩
    refine ⟨kind, v, _, rfl, by rw [hk, Option.map_some], fun {rest} hrest => ?_⟩
    simp only [run_bind, hp hf hrest, run_pure]
  · intro kind p ks hk
    obtain ⟨operator, hk, -⟩ := Option.map_eq_some_iff.mp hk
    simp [hsign hk]
  · intro kind hk
    rw [hrest.none_of_sign (fun _ _ h => Nat.le_of_eq (hsign h).symm) kind hk, Option.map_none]

theorem rightChain {p : Parser Expr} {L : Language Expr} {layer : Nat} {keyword : Keyword}
    {operator : Operator} (hk : (TokenKind.keyword keyword).binding = layer)
    (hp : Accepts p L (Ends (layer + 1))) :
    Accepts
      (do
        let first ← p
        let others ← Parser.many fun kind => if kind = .keyword keyword then some p else none
        return first.chainRight operator others)
      (RightChain keyword operator L) (Ends layer) := by
  intro w e rest hw hrest
  obtain ⟨u, first, v, others, rfl, rfl, hu, hv⟩ := rightChain_iff.mp hw
  have hstop : ∀ kind ∈ rest.head?, kind ≠ .keyword keyword := by
    rintro _ hkind rfl
    exact hrest.head?_ne (Nat.le_of_eq hk.symm) hkind
  exact run_chain hp (step_behind _ hp fun ks => by simp [hk]) (Expr.chainRight operator) hu hv
    (hrest.mono (Nat.le_succ layer)) fun kind hkind => if_neg (hstop kind hkind)

/-! ## Primary expressions -/

theorem column (name : String) {rest : List TokenKind} (h : Ends 7 rest) :
    (Parser.column name).run rest = .ok (.identifier name, rest) :=
  run_after_of_head?_ne _ _ (h.head?_ne (Nat.le_refl 7))

theorem argument (hn : n.Accepts g) :
    Accepts (starOr .star n.expr) (Argument g) (Ends 1) := by
  intro u e rest hu hrest
  cases hu with
  | star => rfl
  | expr hu hstar =>
    have h := hn.expr hu hrest
    obtain ⟨kind, v, rfl, -⟩ := hn.begins_expr hu
    rw [run_starOr_of_head?_ne _ _ (by simpa using hstar), h]

theorem run_query (hn : n.Accepts g) {β : Type} {f : Select → β} {otherwise : Parser β}
    {u rest : List TokenKind} {q : Select} (hu : g.select u q) :
    (queryOr (return f (← n.select)) otherwise).run (u ++ .rightParen :: rest) =
      .ok (f q, .rightParen :: rest) := by
  obtain ⟨v, rfl⟩ := hn.begins_select hu
  exact run_bind_of_ok (hn.select hu (past_of_lt (by decide) _))

theorem run_inner (hn : n.Accepts g) {u rest : List TokenKind} {e : Expr}
    (hu : Bracketed g u e) :
    (queryOr (return .subquery (.select (← n.select))) n.expr).run (u ++ .rightParen :: rest) =
      .ok (e, .rightParen :: rest) := by
  cases hu with
  | expr hu =>
    rw [run_queryOr_of_head?_ne _ _ (((hn.begins_expr hu).append _).head?_ne rfl)]
    exact hn.expr hu (ends_of_lt (by decide) _)
  | subquery hu => exact run_query hn hu

theorem parenthesized (hn : n.Accepts g) {u rest : List TokenKind} {e : Expr}
    (hu : Bracketed g u e) :
    (Parser.parenthesized n).run (u ++ .rightParen :: rest) = .ok (e, rest) := by
  unfold Parser.parenthesized
  rw [run_bind_of_ok (run_inner hn hu), run_expect_bind, run_pure]

theorem aggregateArgument (hn : n.Accepts g) (function : AggregateFunction)
    {u v rest : List TokenKind} {distinct : Bool} {e : Expr}
    (hu : Flag (.keyword .distinct) u distinct) (hv : Argument g v e) :
    (Parser.aggregateArgument n function).run
      (.leftParen :: (u ++ (v ++ .rightParen :: rest))) =
      .ok (.aggregate function e distinct, rest) := by
  have hdistinct : (v ++ .rightParen :: rest).head? ≠ some (.keyword .distinct) := by
    cases hv with
    | star => simp
    | expr hv => exact ((hn.begins_expr hv).append _).head?_ne rfl
  have hargument := argument hn hv
    (show Ends 1 (.rightParen :: rest) from ends_of_lt (by decide) rest)
  unfold Parser.aggregateArgument
  rw [run_expect_bind, run_bind_of_ok (skip _ hu hdistinct), run_bind_of_ok hargument,
    run_expect_bind, run_pure]

theorem primary (hn : n.Accepts g) : Accepts (Parser.primary n) (Primary g) (Ends 7) := by
  intro u e rest hu hrest
  cases hu with
  | literal value => rfl
  | star => rfl
  | identifier name => exact column name hrest
  | qualified table name => rfl
  | qualifiedStar table => rfl
  | aggregate function hu hv =>
    have h : AggregateFunction.ofKeyword? function.keyword = some function :=
      AggregateFunction.ofKeyword?_eq_some_iff.mpr rfl
    simp only [Parser.primary, List.cons_append, List.append_assoc, run_choose_cons, h,
      Option.map_some]
    exact aggregateArgument hn function hu hv
  | brackets hu =>
    simp only [Parser.primary, List.cons_append, List.append_assoc, run_choose_cons]
    exact parenthesized hn hu

/-! ## Layers -/

theorem step_sign : Step sign? Sign fun _ => True where
  phrase hu := by
    cases hu with
    | plus => exact ⟨_, [], _, rfl, rfl, fun _ => rfl⟩
    | minus => exact ⟨_, [], _, rfl, rfl, fun _ => rfl⟩
  before _ _ := trivial

theorem sign?_of_startsPrimary {kind : TokenKind} (h : kind.startsPrimary = true) :
    sign? kind = none := by
  unfold sign?
  split
  · cases h
  · cases h
  · rfl

theorem signed (hn : n.Accepts g) : Accepts (Parser.signed n) (Signed g) (Ends 7) := by
  rintro _ _ rest (@⟨u, minuses, v, operand, hu, hv⟩) hrest
  have hstop : ∀ kind ∈ (v ++ rest).head?, sign? kind = none := by
    obtain ⟨kind, v', rfl, hk⟩ := begins_of_primary hv
    simpa using sign?_of_startsPrimary hk
  have hsigns : (Parser.many sign?).run (u ++ (v ++ rest)) = .ok (minuses, v ++ rest) :=
    many step_sign hu ⟨trivial, hstop⟩
  unfold Parser.signed
  rw [List.append_assoc, run_bind_of_ok hsigns, run_bind_of_ok (primary hn hv hrest), run_pure]

theorem product (hn : n.Accepts g) : Accepts (Parser.product n) (Product g) (Ends 6) :=
  leftChain binding_of_multiplicative? (signed hn)

theorem sum (hn : n.Accepts g) : Accepts (Parser.sum n) (Grammar.Sum g) (Ends 5) :=
  leftChain binding_of_additive? (product hn)

theorem nullTest (hn : n.Accepts g) : Accepts (Parser.nullTest n) (NullTest g) (Ends 4) := by
  intro w e rest hw hrest
  unfold Parser.nullTest
  cases hw with
  | sum hu =>
    rw [run_bind_of_ok (sum hn hu (hrest.mono (by decide)))]
    exact run_after_of_head?_ne _ _ (hrest.head?_ne (Nat.le_refl 4))
  | isNull hu hv =>
    simp only [List.append_assoc, List.cons_append, List.nil_append]
    rw [run_bind_of_ok (sum hn hu (ends_of_lt (by decide) _)), run_after_self,
      run_bind_of_ok (skip _ hv (by simp)), run_expect_bind, run_pure]

theorem run_members (hn : n.Accepts g) {operand f : Expr} {negated : Bool}
    {u rest : List TokenKind} (hu : Members g operand negated u f) :
    (queryOr (return .inSubquery operand (.select (← n.select)) negated)
      (return .inList operand (← Parser.commaList n.expr) negated)).run
      (u ++ .rightParen :: rest) = .ok (f, .rightParen :: rest) := by
  cases hu with
  | list hu =>
    have hend : Ends 1 (.rightParen :: rest) := ends_of_lt (by decide) rest
    have hlist := commaList hn.expr (ends_of_lt (by decide)) hu ⟨hend, by simp⟩
    obtain ⟨v, e, v', es, rfl, rfl, hv, -⟩ := commaList_iff.mp hu
    rw [List.append_assoc] at hlist ⊢
    rw [run_queryOr_of_head?_ne _ _ (((hn.begins_expr hv).append _).head?_ne rfl),
      run_bind_of_ok hlist, run_pure]
  | subquery hu => exact run_query hn hu

theorem membership (hn : n.Accepts g) {operand f : Expr} {negated : Bool}
    {u rest : List TokenKind} (hu : Members g operand negated u f) :
    (Parser.membership n operand negated).run (.leftParen :: (u ++ .rightParen :: rest)) =
      .ok (f, rest) := by
  unfold Parser.membership
  rw [run_expect_bind, run_bind_of_ok (run_members hn hu), run_expect_bind, run_pure]

theorem range (hn : n.Accepts g) (operand : Expr) (negated : Bool) {low high : Expr}
    {u v rest : List TokenKind} (hu : NullTest g u low) (hv : NullTest g v high)
    (hrest : Ends 4 rest) :
    (Parser.range n operand negated).run (u ++ .keyword .and :: (v ++ rest)) =
      .ok (.between operand low high negated, rest) := by
  unfold Parser.range
  rw [run_bind_of_ok (nullTest hn hu (ends_of_lt (by decide) _)), run_expect_bind,
    run_bind_of_ok (nullTest hn hv hrest), run_pure]

theorem negatedPredicate_like (hn : n.Accepts g) (operand : Expr) {u rest : List TokenKind}
    {e : Expr} (hu : NullTest g u e) (hrest : Ends 4 rest) :
    (Parser.negatedPredicate n operand).run (.keyword .like :: (u ++ rest)) =
      .ok (.not (.binary operand .like e), rest) := by
  simp only [Parser.negatedPredicate, run_choose_cons]
  rw [run_bind_of_ok (nullTest hn hu hrest), run_pure]

/-- The operators of comparison are none of the words that begin the other tests. -/
theorem predicate?_of_comparison? (operand : Expr) {kind : TokenKind} {operator : Operator}
    (h : kind.comparison? = some operator) :
    predicate? n operand kind =
      some (do return .binary operand operator (← Parser.nullTest n)) := by
  unfold predicate?
  split
  · cases h
  · cases h
  · cases h
  · rw [h, Option.map_some]

theorem predicate?_eq_none (operand : Expr) {kind : TokenKind} (h : kind.binding < 3) :
    predicate? n operand kind = none := by
  unfold predicate?
  split
  · exact absurd h (by decide)
  · exact absurd h (by decide)
  · exact absurd h (by decide)
  · cases hc : kind.comparison? with
    | none => rfl
    | some operator =>
      rw [binding_of_comparison? hc] at h
      exact absurd h (Nat.lt_irrefl 3)

/-- An operand, and a test that begins with a given kind after it. -/
theorem run_predicate (hn : n.Accepts g) {u v : List TokenKind} {operand : Expr}
    {kind : TokenKind} {p : Parser Expr} (hu : NullTest g u operand)
    (hb : kind.binding = 3) (hp : predicate? n operand kind = some p) :
    (Parser.predicate n).run (u ++ kind :: v) = p.run v := by
  unfold Parser.predicate
  rw [run_bind_of_ok (nullTest hn hu (by simp [hb])), run_choose_cons, hp]

theorem predicate (hn : n.Accepts g) :
    Accepts (Parser.predicate n) (Predicate g) (Ends 3) := by
  intro w e rest hw hrest
  have hrest' : Ends 4 rest := hrest.mono (by decide)
  cases hw with
  | nullTest hu =>
    unfold Parser.predicate
    rw [run_bind_of_ok (nullTest hn hu hrest'),
      run_choose_of_none _ fun kind hk => predicate?_eq_none _ (hrest kind hk), run_pure]
  | comparison hu hk hv =>
    rw [List.append_assoc, List.cons_append, run_predicate hn hu (binding_of_comparison? hk)
      (predicate?_of_comparison? _ hk), run_bind_of_ok (nullTest hn hv hrest'), run_pure]
  | notLike hu hv =>
    rw [List.append_assoc, List.cons_append, run_predicate hn hu rfl rfl]
    exact negatedPredicate_like hn _ hv hrest'
  | membership hu hv hw =>
    simp only [List.append_assoc, List.cons_append, List.nil_append]
    cases hv with
    | absent =>
      rw [List.nil_append, run_predicate hn hu rfl rfl]
      exact membership hn hw
    | present =>
      rw [List.cons_append, List.nil_append, run_predicate hn hu rfl rfl]
      exact membership hn hw
  | range hu hv hw hx =>
    simp only [List.append_assoc, List.cons_append]
    cases hv with
    | absent =>
      rw [List.nil_append, run_predicate hn hu rfl rfl]
      exact range hn _ _ hw hx hrest'
    | present =>
      rw [List.cons_append, List.nil_append, run_predicate hn hu rfl rfl]
      exact range hn _ _ hw hx hrest'

theorem negation (hn : n.Accepts g) : Accepts (Parser.negation n) (Negation g) (Ends 3) := by
  rintro _ _ rest (@⟨v, operand, count, hv⟩) hrest
  have hnot : Step (fun kind => if kind = .keyword .not then some (pure ()) else none)
      (fun x (_ : Unit) => x = [.keyword .not]) fun _ => True := by
    refine ⟨?_, fun _ _ => trivial⟩
    rintro _ ⟨⟩ rfl
    exact ⟨_, [], _, rfl, rfl, fun _ => rfl⟩
  have hstop : ∀ kind ∈ (v ++ rest).head?, kind ≠ .keyword .not := by
    rintro _ hk rfl
    exact ((begins_of_predicate hv).append rest).head?_ne rfl hk
  have hrow : Many (fun x (_ : Unit) => x = [.keyword .not])
      (List.replicate count (.keyword .not)) (List.replicate count ()) :=
    many_not_iff.mpr (by rw [List.length_replicate])
  have hnots : (Parser.many _).run (_ ++ (v ++ rest)) = .ok (_, v ++ rest) :=
    many hnot hrow ⟨trivial, fun kind hk => if_neg (hstop kind hk)⟩
  unfold Parser.negation
  rw [List.append_assoc, run_bind_of_ok hnots, run_bind_of_ok (predicate hn hv hrest), run_pure,
    List.length_replicate]

theorem conjunction (hn : n.Accepts g) :
    Accepts (Parser.conjunction n) (Conjunction g) (Ends 2) :=
  rightChain rfl (negation hn)

theorem disjunction (hn : n.Accepts g) :
    Accepts (Parser.disjunction n) (Disjunction g) (Ends 1) :=
  rightChain rfl (conjunction hn)

end Accepts

end SqlSyntax
