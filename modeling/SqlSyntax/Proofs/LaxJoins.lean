import SqlSyntax.Proofs.Accepting.Query
import SqlSyntax.Proofs.Alike.Outlast
import SqlSyntax.Proofs.Content

/-!
# Joins without a condition

Where joins may lack their conditions, nothing changes but this: a join without a condition
before another join is no error. The strict parser blames the word that begins the other
join, and the lax one consumes it.
-/
namespace SqlSyntax

open SqlSyntax.Parser

/-- The words that begin a join. -/
def joinWords : List Keyword := [.join, .inner, .left, .right, .full, .cross]

theorem startsJoin_iff {kind : TokenKind} :
    startsJoin kind = true ↔ ∃ word ∈ joinWords, kind = .keyword word := by
  constructor
  · intro h
    unfold startsJoin join? at h
    split at h
    · exact ⟨.join, by decide, rfl⟩
    · exact ⟨.inner, by decide, rfl⟩
    · exact ⟨.left, by decide, rfl⟩
    · exact ⟨.right, by decide, rfl⟩
    · exact ⟨.full, by decide, rfl⟩
    · exact ⟨.cross, by decide, rfl⟩
    · cases h
  · have hall : ∀ word ∈ joinWords, startsJoin (.keyword word) = true := by decide
    rintro ⟨word, hword, rfl⟩
    exact hall word hword

/-- `ON` was asked for where another join begins. -/
def LacksCondition (cause : ParseCause) : Prop :=
  ∃ word ∈ joinWords, cause = .unexpectedToken (.token (.keyword .on)) (.keyword word)

theorem peculiar_lacksCondition : Peculiar LacksCondition where
  rowWidth _ _ := by
    rintro ⟨word, -, h⟩
    cases h
  unexpected expected kinds hon := by
    rintro ⟨word, -, h⟩
    unfold ParseCause.unexpected at h
    split at h
    · cases h
    · cases h
    · exact hon (ParseCause.unexpectedToken.inj h).1

theorem lacksCondition_unexpected_iff {kinds : List TokenKind} :
    LacksCondition (.unexpected (.token (.keyword .on)) kinds) ↔
      Accepts.BeforeJoin kinds := by
  constructor
  · rintro ⟨word, hword, h⟩
    unfold ParseCause.unexpected at h
    split at h
    · cases h
    · cases h
    · exact ⟨_, _, rfl, startsJoin_iff.mpr ⟨word, hword, (ParseCause.unexpectedToken.inj h).2⟩⟩
  · rintro ⟨kind, rest, rfl, hkind⟩
    obtain ⟨word, hword, rfl⟩ := startsJoin_iff.mp hkind
    exact ⟨word, hword, rfl⟩

/-- The first parser stops as a join lacks its condition, and the second one does without the
condition and leaves the other join. -/
def Excuses (kinds : List TokenKind) (p q : Parser α) : Prop :=
  ∃ f a kind rest, p.run kinds = .error f ∧ LacksCondition f.cause ∧ f.blamed = kind :: rest ∧
    startsJoin kind = true ∧ q.run kinds = .ok (a, kind :: rest)

/-- What a lax parser of joins does beside a strict one. -/
def Relaxes (kinds : List TokenKind) (p q : Parser α) : Prop :=
  OutlastsOn LacksCondition 1 kinds p q ∨ Excuses kinds p q

namespace Relaxes

variable {α β : Type} {kinds : List TokenKind} {p q : Parser α}

/-- Both begin in the same way, which does not fail as a join lacks its condition. -/
theorem after {w : Parser β} (hw : Outlasts LacksCondition 1 w w) {f g : β → Parser α}
    (h : ∀ b rest, Relaxes rest (f b) (g b)) : Relaxes kinds (w >>= f) (w >>= g) := by
  cases hr : w.run kinds with
  | ok result =>
    obtain ⟨b, rest⟩ := result
    rw [Relaxes, OutlastsOn, Excuses, run_bind_of_ok hr, run_bind_of_ok hr]
    exact h b rest
  | error failure =>
    refine .inl ((hw kinds).bind fun b rest hok => ?_)
    cases hr.symm.trans hok

protected theorem map (h : Relaxes kinds p q) (f : α → β) :
    Relaxes kinds (p >>= fun a => pure (f a)) (q >>= fun a => pure (f a)) := by
  obtain h | ⟨failure, a, kind, rest, hp, hcause, hblamed, hkind, hq⟩ := h
  · exact .inl (h.bind fun _ _ _ => Outlasts.pure _ _)
  · exact .inr ⟨failure, f a, kind, rest, by rw [run_bind, hp], hcause, hblamed, hkind,
      run_bind_of_ok hq⟩

end Relaxes

section Joins

variable {o o' : ParserOptions} {n m : Nested}

/-- No join begins without its condition. -/
theorem run_joinCondition_missing {type : JoinType} (ht : type ≠ .cross)
    {kinds : List TokenKind} (hon : ∀ kind ∈ kinds.head?, kind ≠ .keyword .on)
    (hmissing : (o.allowJoinWithoutOn && kinds.head?.any startsJoin) = false) :
    (joinCondition o n type).run kinds =
      .error ⟨.unexpected (.token (.keyword .on)) kinds, kinds, kinds⟩ := by
  unfold joinCondition
  split
  · exact absurd rfl ht
  · rw [run_choose_of_none _ fun kind hkind => if_neg (hon kind hkind), run_peek]
    simp only [hmissing, Bool.false_eq_true, if_false, run_unexpected]

variable (hstrict : o.allowJoinWithoutOn = false) (hlax : o'.allowJoinWithoutOn = true)
  (h : n.Alike (Outlasts LacksCondition 1) m)
include hstrict hlax h

theorem relaxes_joinCondition (type : JoinType) (kinds : List TokenKind) :
    Relaxes kinds (joinCondition o n type) (joinCondition o' m type) := by
  by_cases ht : type = .cross
  · subst ht
    exact .inl (Outlasts.pure _ kinds)
  by_cases hon : ∃ rest, kinds = .keyword .on :: rest
  · obtain ⟨rest, rfl⟩ := hon
    unfold joinCondition
    split
    · exact absurd rfl ht
    · exact .inl (h.expr.outlasts peculiar_lacksCondition id rest)
  have hon : ∀ kind ∈ kinds.head?, kind ≠ .keyword .on := by
    rintro kind hkind rfl
    exact hon (List.head?_eq_some_iff.mp hkind)
  have hp := run_joinCondition_missing (o := o) (n := n) ht hon (by simp [hstrict])
  by_cases hjoin : Accepts.BeforeJoin kinds
  · obtain ⟨kind, rest, rfl, hkind⟩ := hjoin
    exact .inr ⟨_, _, kind, rest, hp, lacksCondition_unexpected_iff.mpr ⟨kind, rest, rfl, hkind⟩,
      rfl, hkind, Accepts.run_joinCondition_bare ht hlax ⟨kind, rest, rfl, hkind⟩⟩
  · have hq := run_joinCondition_missing (o := o') (n := m) ht hon <| by
      rw [hlax, Bool.true_and, Bool.eq_false_iff]
      cases kinds with
      | nil => simp
      | cons kind rest => exact fun hkind => hjoin ⟨kind, rest, rfl, hkind⟩
    refine .inl (.inl ⟨hq.trans hp.symm, fun f hr hcause => ?_⟩)
    obtain rfl := Except.error.inj (hp.symm.trans hr)
    exact hjoin (lacksCondition_unexpected_iff.mp hcause)

theorem relaxes_joinEntry (words : Parser JoinType)
    (hwords : Outlasts LacksCondition 1 words words) (kinds : List TokenKind) :
    Relaxes kinds (joinEntry o n words) (joinEntry o' m words) :=
  .after hwords fun type _ => .after (Alike.table.outlasts peculiar_lacksCondition id) fun _ _ =>
    (relaxes_joinCondition hstrict hlax h type _).map _

/-- The other join is consumed at once, as the lax repetition goes on with it. -/
theorem outlasts_joins :
    Outlasts LacksCondition 1 (many fun kind => (join? kind).map (joinEntry o n))
      (many fun kind => (join? kind).map (joinEntry o' m)) := by
  refine .many_of_rounds (fun kind => by simp) fun kind p q hp hq kinds => ?_
  obtain ⟨words, hk, rfl⟩ := Option.map_eq_some_iff.mp hp
  obtain rfl : joinEntry o' m words = q := by simpa [hk] using hq
  have hwords : BothOrNone (Alike (Outlasts LacksCondition 1)) _ _ := Alike.join? kind
  rw [hk] at hwords
  obtain hboth | ⟨f, a, other, rest, hstop, hcause, hblamed, hother, hok⟩ :=
    relaxes_joinEntry hstrict hlax h words (hwords.outlasts peculiar_lacksCondition id) kinds
  · exact .inl hboth
  · refine .inr ⟨f, rest.length, hstop, hcause, by rw [hblamed, List.length_cons], ?_⟩
    obtain ⟨words', hwords'⟩ := Option.isSome_iff_exists.mp hother
    rw [run_many_of_some hq, run_bind_of_ok hok]
    refine Reaches.bind ?_ _
    rw [run_many_of_some (congrArg (Option.map (joinEntry o' m)) hwords')]
    exact reaches_of_within (Nat.le_refl _) (Parser.within _ rest)

theorem outlasts_tableRef : Outlasts LacksCondition 1 (tableRef o n) (tableRef o' m) :=
  (Alike.table.outlasts peculiar_lacksCondition id).bind fun _ =>
    (outlasts_joins hstrict hlax h).bind fun _ => .pure _

end Joins

theorem nested_relaxed (maxDepth left : Nat) :
    (nested ⟨maxDepth, false⟩ left).Alike (Outlasts LacksCondition 1)
      (nested ⟨maxDepth, true⟩ left) := by
  induction left with
  | zero =>
    have hrefuse {α : Type} : Outlasts LacksCondition 1 (refuse maxDepth : Parser α)
        (refuse maxDepth) := by
      refine .refl fun kinds f hr => ?_
      cases hr
      rintro ⟨word, -, h⟩
      cases h
    exact ⟨.base hrefuse, .base hrefuse⟩
  | succ left ih =>
    have htable : Outlasts LacksCondition 1 (tableRef ⟨maxDepth, false⟩ _)
        (tableRef ⟨maxDepth, true⟩ _) := outlasts_tableRef rfl rfl ih
    have hexpr : Outlasts LacksCondition 1
        (nest fun _ => disjunction (nested ⟨maxDepth, false⟩ left))
        (nest fun _ => disjunction (nested ⟨maxDepth, true⟩ left)) :=
      (Alike.disjunction (.predicate ih)).outlasts peculiar_lacksCondition id
    have hselect : Outlasts LacksCondition 1
        (nest fun _ => selectBody ⟨maxDepth, false⟩ (nested ⟨maxDepth, false⟩ left))
        (nest fun _ => selectBody ⟨maxDepth, true⟩ (nested ⟨maxDepth, true⟩ left)) :=
      (Alike.selectBody (.base htable) ih).outlasts peculiar_lacksCondition id
    exact ⟨.base hexpr, .base hselect⟩

theorem soleStatement_relaxed (maxDepth : Nat) :
    Outlasts LacksCondition 1 (soleStatement ⟨maxDepth, false⟩) (soleStatement ⟨maxDepth, true⟩) :=
  (Alike.soleStatement (checksRows_outlasts peculiar_lacksCondition)
    (nested_relaxed maxDepth maxDepth)).outlasts peculiar_lacksCondition id

/-- Tokens are parsed under the same limit of nesting once where joins may not lack their
conditions and once where they may. If the strict parse does not end in the error that `ON`
was expected and a word that begins a join was found, the lax one gives the same. If it does,
the lax one gives a statement, or the error that a row has the wrong width, or an error at a
later position. -/
theorem parseTokens_allowJoinWithoutOn (tokens : List Token) (maxDepth : Nat) :
    ((∀ e, parseTokens tokens ⟨maxDepth, false⟩ = .error e → ¬LacksCondition e.cause) →
      parseTokens tokens ⟨maxDepth, true⟩ = parseTokens tokens ⟨maxDepth, false⟩) ∧
    ∀ e, parseTokens tokens ⟨maxDepth, false⟩ = .error e → LacksCondition e.cause →
      (∃ s, parseTokens tokens ⟨maxDepth, true⟩ = .ok s) ∨
        ∃ e', parseTokens tokens ⟨maxDepth, true⟩ = .error e' ∧
          ((∃ values columns, e'.cause = .rowWidth values columns) ∨
            e.position < e'.position) := by
  have houtlasts := soleStatement_relaxed maxDepth (Session.start tokens ⟨maxDepth, false⟩).ahead
  refine ⟨Session.run_eq_of_outlasts (s := Session.start tokens ⟨maxDepth, false⟩)
      (t := Session.start tokens ⟨maxDepth, true⟩) rfl rfl houtlasts,
    fun e he hcause => ?_⟩
  obtain ⟨left, hposition, hreach⟩ := Session.reaches_of_outlasts houtlasts he hcause
  cases hlax : parseTokens tokens ⟨maxDepth, true⟩ with
  | ok s => exact .inl ⟨s, rfl⟩
  | error e' =>
    refine .inr ⟨e', rfl, ?_⟩
    rw [Nat.lt_iff_add_one_le, hposition]
    exact Session.le_position_of_reaches (s := Session.start tokens ⟨maxDepth, true⟩) hreach hlax

/-- `SELECT * FROM a JOIN b JOIN c`, where both joins lack their conditions. -/
def twoJoins : List Token := tokensOf [.keyword .select, .star, .keyword .from, .identifier "a",
  .keyword .join, .identifier "b", .keyword .join, .identifier "c"]

theorem parseTokens_allowJoinWithoutOn_twoJoins :
    (∃ e, parseTokens twoJoins ⟨1, false⟩ = .error e ∧ LacksCondition e.cause ∧ e.position = 6 ∧
      ((∃ s, parseTokens twoJoins ⟨1, true⟩ = .ok s) ∨
        ∃ e', parseTokens twoJoins ⟨1, true⟩ = .error e' ∧
          ((∃ values columns, e'.cause = .rowWidth values columns) ∨ 6 < e'.position))) ∧
    parseTokens twoJoins ⟨0, true⟩ = parseTokens twoJoins ⟨0, false⟩ := by
  have hlack : parseTokens twoJoins ⟨1, false⟩ = .error
      ⟨.unexpectedToken (.token (.keyword .on)) (.keyword .join), .point 0, 6⟩ := by
    with_unfolding_all rfl
  have hcause : LacksCondition (.unexpectedToken (.token (.keyword .on)) (.keyword .join)) :=
    ⟨.join, by decide, rfl⟩
  have hdeep : parseTokens twoJoins ⟨0, false⟩ = .error ⟨.tooDeep 0, .point 0, 0⟩ := by
    with_unfolding_all rfl
  refine ⟨⟨_, hlack, hcause, rfl, (parseTokens_allowJoinWithoutOn twoJoins 1).2 _ hlack hcause⟩,
    (parseTokens_allowJoinWithoutOn twoJoins 0).1 fun e he => ?_⟩
  obtain rfl := Except.error.inj (hdeep.symm.trans he)
  rintro ⟨word, -, h⟩
  cases h

end SqlSyntax
