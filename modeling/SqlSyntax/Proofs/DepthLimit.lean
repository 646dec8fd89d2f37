import SqlSyntax.Proofs.Alike.Deferred
import SqlSyntax.Proofs.Alike.Outlast
import SqlSyntax.Proofs.Content

/-!
# The limit of nesting decides nothing else

A greater limit changes a result only if that was the error of the smaller limit, and then the
parser comes at least as far. Each level of nesting costs a token, so a limit beyond the number
of tokens is never met.
-/
namespace SqlSyntax

open SqlSyntax.Parser

/-! ## A greater limit -/

/-- The limit of nesting was met. -/
def MeetsLimit (limit : Nat) (cause : ParseCause) : Prop := cause = .tooDeep limit

theorem ParseCause.unexpected_ne_tooDeep (expected : Expectation) (kinds : List TokenKind)
    (limit : Nat) : unexpected expected kinds ≠ .tooDeep limit := by
  unfold unexpected
  split <;> nofun

theorem peculiar_meetsLimit (limit : Nat) : Peculiar (MeetsLimit limit) where
  rowWidth _ _ := nofun
  unexpected expected kinds _ := ParseCause.unexpected_ne_tooDeep expected kinds limit

/-- What the limit stops stops where it begins. -/
theorem Outlasts.refuse (limit : Nat) (q : Parser α) :
    Outlasts (MeetsLimit limit) 0 (.refuse limit) q := fun kinds =>
  .inr ⟨_, kinds.length, rfl, rfl, rfl, reaches_of_within (Nat.le_refl _) (q.within kinds)⟩

/-- With more levels of nesting the parsers do the same, down to where the fewer levels are
used up. -/
theorem nested_outlasts {o o' : ParserOptions}
    (hlax : o.allowJoinWithoutOn = o'.allowJoinWithoutOn) {depth depth' : Nat}
    (h : depth ≤ depth') :
    (nested o depth).Alike (Outlasts (MeetsLimit o.maxDepth) 0) (nested o' depth') := by
  induction depth generalizing depth' with
  | zero => exact ⟨.base (.refuse _ _), .base (.refuse _ _)⟩
  | succ depth ih =>
    obtain ⟨k, rfl⟩ := Nat.exists_eq_add_one.mpr (Nat.lt_of_lt_of_le depth.succ_pos h)
    have hn := ih (Nat.le_of_succ_le_succ h)
    have hreason := peculiar_meetsLimit o.maxDepth
    have hon : Outlasts (MeetsLimit o.maxDepth) 0 (unexpected (.token (.keyword .on)) : Parser Expr)
        (unexpected (.token (.keyword .on))) :=
      .unexpected fun kinds => ParseCause.unexpected_ne_tooDeep _ kinds o.maxDepth
    have hexpr : Outlasts (MeetsLimit o.maxDepth) 0
        (nest fun _ => disjunction (nested o depth)) (nest fun _ => disjunction (nested o' k)) :=
      (Alike.disjunction (.predicate hn)).outlasts hreason id
    have hselect : Outlasts (MeetsLimit o.maxDepth) 0
        (nest fun _ => selectBody o (nested o depth))
        (nest fun _ => selectBody o' (nested o' k)) :=
      (Alike.selectBody (.tableRef hlax (.base hon) hn) hn).outlasts hreason id
    exact ⟨.base hexpr, .base hselect⟩

theorem soleStatement_outlasts {o o' : ParserOptions}
    (hlax : o.allowJoinWithoutOn = o'.allowJoinWithoutOn) (h : o.maxDepth ≤ o'.maxDepth) :
    Outlasts (MeetsLimit o.maxDepth) 0 (soleStatement o) (soleStatement o') :=
  (Alike.soleStatement (checksRows_outlasts (peculiar_meetsLimit o.maxDepth))
    (nested_outlasts hlax h)).outlasts (peculiar_meetsLimit o.maxDepth) id

/-! ## Each level costs a token -/

/-- Before the limit of nesting stops the parser it has consumed at least so many kinds. -/
def TooDeepAfter (count : Nat) (p : Parser α) : Prop :=
  ∀ kinds failure limit, p.run kinds = .error failure → failure.cause = .tooDeep limit →
    count + failure.blamed.length ≤ kinds.length

namespace TooDeepAfter

variable {α β : Type} {count : Nat} {p : Parser α}

/-- No parser blames what comes before its input. -/
protected theorem zero (p : Parser α) : TooDeepAfter 0 p := by
  intro kinds failure _ hr _
  have hp := p.within kinds
  rw [hr] at hp
  rw [Nat.zero_add]
  exact hp.2.length_le

protected theorem pure (a : α) : TooDeepAfter count (pure a) := fun _ _ _ hr => nomatch hr

protected theorem bind {f : α → Parser β} (hp : TooDeepAfter count p)
    (hf : ∀ a, TooDeepAfter count (f a)) : TooDeepAfter count (p >>= f) := by
  intro kinds failure limit hr hc
  rw [run_bind] at hr
  cases hp' : p.run kinds with
  | error failure' =>
    rw [hp'] at hr
    cases hr
    exact hp kinds failure limit hp' hc
  | ok result =>
    rw [hp'] at hr
    exact Nat.le_trans (hf result.1 result.2 failure limit hr hc) (suffix_of_run hp').length_le

protected theorem unexpected (expected : Expectation) :
    TooDeepAfter count (unexpected expected : Parser α) := by
  intro kinds failure limit hr hc
  cases hr
  exact absurd hc (ParseCause.unexpected_ne_tooDeep expected kinds limit)

protected theorem validate {test : α → Option ParseCause}
    (htest : ∀ a cause, test a = some cause → ∃ values columns, cause = .rowWidth values columns)
    (hp : TooDeepAfter count p) : TooDeepAfter count (p.validate test) := by
  intro kinds failure limit hr hc
  simp only [Parser.validate] at hr
  split at hr
  · rename_i hp'
    cases hr
    exact hp kinds failure limit hp' hc
  · split at hr
    · cases hr
    · rename_i cause ht
      obtain ⟨values, columns, rfl⟩ := htest _ cause ht
      cases hr
      cases hc

/-- A kind is consumed before what follows it is read. -/
protected theorem choose {f : TokenKind → Option (Parser α)} {otherwise : Parser α} {n : Nat}
    (hf : ∀ kind p, f kind = some p → TooDeepAfter count p) (ho : TooDeepAfter n otherwise)
    (hn : n ≤ count + 1) : TooDeepAfter n (choose f otherwise) := by
  intro kinds failure limit hr hc
  cases kinds with
  | nil => exact ho [] failure limit hr hc
  | cons kind kinds =>
    rw [run_choose_cons] at hr
    cases hk : f kind with
    | none =>
      rw [hk] at hr
      exact ho (kind :: kinds) failure limit hr hc
    | some p =>
      rw [hk] at hr
      have := hf kind p hk kinds failure limit hr hc
      rw [List.length_cons]
      omega

theorem token {kind : TokenKind} {f : Unit → Parser α} (h : TooDeepAfter count (f ())) :
    TooDeepAfter (count + 1) (expect kind >>= f) := by
  intro kinds failure limit hr hc
  by_cases hk : kinds.head? = some kind
  · obtain ⟨rest, rfl⟩ := List.head?_eq_some_iff.mp hk
    rw [run_expect_bind] at hr
    have := h rest failure limit hr hc
    rw [List.length_cons]
    omega
  · rw [run_bind, run_expect_of_head?_ne hk] at hr
    cases hr
    exact absurd hc (ParseCause.unexpected_ne_tooDeep _ _ limit)

protected theorem many {next : TokenKind → Option (Parser α)}
    (h : ∀ kind p, next kind = some p → TooDeepAfter count p) :
    TooDeepAfter count (many next) := by
  intro kinds failure limit hr hc
  change runMany next kinds = _ at hr
  fun_induction runMany next kinds with
  | case1 => cases hr
  | case2 => cases hr
  | case3 kind kinds p hk failure' hp =>
    cases hr
    exact Nat.le_succ_of_le (h kind p hk kinds failure limit hp hc)
  | case4 kind kinds p hk a rest hp _ failure' hm ih =>
    cases hr
    have := (suffix_of_run hp).length_le
    exact Nat.le_succ_of_le (Nat.le_trans (ih hm) this)
  | case5 => cases hr

end TooDeepAfter

theorem deferred_tooDeepAfter : Deferred TooDeepAfter where
  pure := .pure
  bind := .bind
  unexpected := .unexpected
  peek h kinds := h kinds.head? kinds
  choose := .choose
  token := .token
  many := .many

theorem nested_tooDeepAfter (o : ParserOptions) (left : Nat) :
    (nested o left).Alike (fun p _ => TooDeepAfter left p) (nested o left) := by
  induction left with
  | zero => exact ⟨.base (.zero _), .base (.zero _)⟩
  | succ left ih =>
    have hexpr : TooDeepAfter (left + 1) (nest fun _ => .disjunction (nested o left)) :=
      deferred_tooDeepAfter.disjunction ih
    have hselect : TooDeepAfter (left + 1) (nest fun _ => .selectBody o (nested o left)) :=
      deferred_tooDeepAfter.selectBody ih o
    exact ⟨.base hexpr, .base hselect⟩

/-- The check of a row's width meets no limit. -/
theorem checksRows_tooDeepAfter (count : Nat) :
    Alike.ChecksRows fun p _ => TooDeepAfter count p :=
  fun htest h => (deferred_tooDeepAfter.alike id h).validate htest

theorem statement_tooDeepAfter (o : ParserOptions) : TooDeepAfter o.maxDepth (statement o) :=
  deferred_tooDeepAfter.alike id
    (Alike.statement (checksRows_tooDeepAfter _) (nested_tooDeepAfter o o.maxDepth))

theorem soleStatement_tooDeepAfter (o : ParserOptions) :
    TooDeepAfter o.maxDepth (soleStatement o) :=
  deferred_tooDeepAfter.alike id
    (Alike.soleStatement (checksRows_tooDeepAfter _) (nested_tooDeepAfter o o.maxDepth))

/-! ## Statements -/

/-- Tokens are parsed under two limits of nesting, the second one no less than the first. If
the first parse does not end in the error of its limit, the second one gives the same. If it
does, at some position, the second one comes to this position at least. And under a limit
greater than the number of tokens no parse ends in such an error. -/
theorem parseTokens_maxDepth (tokens : List Token) (lax : Bool) {low high : Nat}
    (h : low ≤ high) :
    ((∀ e, parseTokens tokens ⟨low, lax⟩ = .error e → e.cause ≠ .tooDeep low) →
      parseTokens tokens ⟨high, lax⟩ = parseTokens tokens ⟨low, lax⟩) ∧
    (∀ e, parseTokens tokens ⟨low, lax⟩ = .error e → e.cause = .tooDeep low →
      e.position ≤ (Session.start tokens ⟨high, lax⟩).parse.2.cursor) ∧
    ∀ depth, tokens.length < depth → ∀ e limit,
      parseTokens tokens ⟨depth, lax⟩ = .error e → e.cause ≠ .tooDeep limit := by
  have hstatement : Outlasts (MeetsLimit low) 0 (soleStatement ⟨low, lax⟩)
      (soleStatement ⟨high, lax⟩) := soleStatement_outlasts rfl h
  have houtlasts := hstatement (Session.start tokens ⟨low, lax⟩).ahead
  refine ⟨Session.run_eq_of_outlasts (s := Session.start tokens ⟨low, lax⟩)
      (t := Session.start tokens ⟨high, lax⟩) rfl rfl houtlasts,
    fun e he hc => ?_, fun depth hdepth e limit he hc => ?_⟩
  · obtain ⟨left, hposition, hreach⟩ := Session.reaches_of_outlasts houtlasts he hc
    rw [← Nat.add_zero e.position, hposition]
    exact Session.le_cursor_of_reaches (s := Session.start tokens ⟨high, lax⟩) hreach
  · obtain ⟨f, hf, hcause, -⟩ := Session.failure_of_run he
    have hle : depth + f.blamed.length ≤ _ :=
      soleStatement_tooDeepAfter ⟨depth, lax⟩ _ f limit hf (hcause.trans hc)
    have hlength : (Session.start tokens ⟨depth, lax⟩).ahead.length = tokens.length := by
      simp [Session.ahead, Session.start]
    omega

/-- `SELECT ((1))`, which opens a query and three expressions. -/
def doubleBrackets : List Token := tokensOf [.keyword .select, .leftParen, .leftParen,
  .literal (.integer 1), .rightParen, .rightParen]

theorem parseTokens_maxDepth_doubleBrackets :
    parseTokens doubleBrackets ⟨2, true⟩ = .error ⟨.tooDeep 2, .point 0, 2⟩ ∧
      2 ≤ (Session.start doubleBrackets ⟨3, true⟩).parse.2.cursor ∧
      parseTokens doubleBrackets ⟨7, true⟩ = parseTokens doubleBrackets ⟨4, true⟩ := by
  have htwo : parseTokens doubleBrackets ⟨2, true⟩ = .error ⟨.tooDeep 2, .point 0, 2⟩ := by
    with_unfolding_all rfl
  have hfour : ∃ s, parseTokens doubleBrackets ⟨4, true⟩ = .ok s :=
    ⟨_, by with_unfolding_all rfl⟩
  have hfar : 2 ≤ (Session.start doubleBrackets ⟨3, true⟩).parse.2.cursor :=
    (parseTokens_maxDepth doubleBrackets true (by decide : 2 ≤ 3)).2.1 _ htwo rfl
  refine ⟨htwo, hfar, (parseTokens_maxDepth doubleBrackets true (by decide : 4 ≤ 7)).1 ?_⟩
  obtain ⟨s, hs⟩ := hfour
  intro e he
  cases hs.symm.trans he

end SqlSyntax
