import SqlSyntax.Proofs.Grammar.Statement

/-!
# Parsers that read a language

A parser reads a language if what it consumes is always a phrase with the value that it
gives, and if, where it blames a token, what stands before that token is the beginning of
a phrase. The second part needs that every language on the way has a phrase at all, which
fails where no more nesting is allowed; so it is claimed only under a condition `live`,
the same for all parsers of a grammar.
-/
namespace SqlSyntax

open Grammar

/-- The phrases that go on from what has been read. -/
def residual (L : Language α) (u : List TokenKind) : Language α := fun v a => L (u ++ v) a

structure Reads (live : Prop) (p : Parser α) (L : Language α) : Prop where
  sound : ∀ {kinds a rest}, p.run kinds = .ok (a, rest) → ∃ u, kinds = u ++ rest ∧ L u a
  viable : live → ∀ {kinds failure}, p.run kinds = .error failure →
    failure.cause.isLimit = false → ∃ u v a, kinds = u ++ failure.blamed ∧ L (u ++ v) a
  productive : live → ∃ u a, L u a

namespace Reads

variable {α β : Type} {live : Prop} {p : Parser α} {L : Language α}

theorem mono {M : Language α} (hp : Reads live p L) (h : ∀ u a, L u a → M u a) :
    Reads live p M where
  sound hr := by
    obtain ⟨u, hu, ha⟩ := hp.sound hr
    exact ⟨u, hu, h u _ ha⟩
  viable hl _ _ hr hc := by
    obtain ⟨u, v, a, hu, ha⟩ := hp.viable hl hr hc
    exact ⟨u, v, a, hu, h _ a ha⟩
  productive hl := by
    obtain ⟨u, a, ha⟩ := hp.productive hl
    exact ⟨u, a, h u a ha⟩

/-- Only what is run counts, not its history. -/
theorem of_run_eq {q : Parser α} (hp : Reads live p L) (h : q.run = p.run) :
    Reads live q L where
  sound hr := by
    rw [h] at hr
    exact hp.sound hr
  viable hl _ _ hr hc := by
    rw [h] at hr
    exact hp.viable hl hr hc
  productive := hp.productive

/-- Phrases are read whether or not completions are spoken of. -/
theorem forget (hp : Reads live p L) : Reads False p L := ⟨hp.sound, nofun, nofun⟩

protected theorem pure {a : α} (h : L [] a) : Reads live (pure a) L where
  sound hr := by
    cases hr
    exact ⟨[], rfl, h⟩
  viable _ _ _ hr _ := nomatch hr
  productive _ := ⟨[], a, h⟩

/-- What is read first is a phrase of one language; what is read then goes on from it. -/
protected theorem bind {f : α → Parser β} {M : Language β} (hp : Reads live p L)
    (hf : ∀ u a, L u a → Reads live (f a) (residual M u)) : Reads live (p >>= f) M where
  sound hr := by
    obtain ⟨a, middle, hp', hf'⟩ := Parser.run_bind_eq_ok_iff.mp hr
    obtain ⟨u, rfl, hu⟩ := hp.sound hp'
    obtain ⟨v, rfl, hv⟩ := (hf u a hu).sound hf'
    exact ⟨u ++ v, (List.append_assoc ..).symm, hv⟩
  viable hl kinds failure hr hc := by
    rw [Parser.run_bind] at hr
    cases hp' : p.run kinds with
    | error failure' =>
      rw [hp'] at hr
      cases hr
      obtain ⟨u, v, a, hu, ha⟩ := hp.viable hl hp' hc
      obtain ⟨w, b, hb⟩ := (hf (u ++ v) a ha).productive hl
      exact ⟨u, v ++ w, b, hu, by simpa [residual] using hb⟩
    | ok result =>
      obtain ⟨a, middle⟩ := result
      rw [hp'] at hr
      obtain ⟨u, rfl, hu⟩ := hp.sound hp'
      obtain ⟨v, w, b, rfl, hb⟩ := (hf u a hu).viable hl hr hc
      exact ⟨u ++ v, w, b, (List.append_assoc ..).symm, by simpa [residual] using hb⟩
  productive hl := by
    obtain ⟨u, a, ha⟩ := hp.productive hl
    obtain ⟨v, b, hb⟩ := (hf u a ha).productive hl
    exact ⟨u ++ v, b, hb⟩

/-- Blaming the next token is right as long as something may stand in its place. -/
protected theorem fail {cause : List TokenKind → ParseCause} (h : live → ∃ u a, L u a) :
    Reads live (.fail cause) L where
  sound hr := nomatch hr
  viable hl _ _ hr _ := by
    cases hr
    obtain ⟨u, a, ha⟩ := h hl
    exact ⟨[], u, a, rfl, ha⟩
  productive := h

protected theorem refuse (limit : Nat) (h : live → ∃ u a, L u a) :
    Reads live (.refuse limit) L := by
  have hfail : Reads live (.fail fun _ => .tooDeep limit) L := .fail h
  exact hfail.of_run_eq rfl

/-- A fault that the test finds is no misplaced token. -/
protected theorem validate {test : α → Option ParseCause} {M : Language α}
    (hp : Reads live p L) (hok : ∀ u a, L u a → test a = none → M u a)
    (hfault : ∀ a cause, test a = some cause → cause.isLimit = true)
    (hlive : live → ∀ a, test a = none) : Reads live (p.validate test) M where
  sound {kinds a rest} hr := by
    simp only [Parser.validate] at hr
    split at hr
    · cases hr
    · rename_i hp'
      split at hr
      · rename_i ht
        cases hr
        obtain ⟨u, hu, ha⟩ := hp.sound hp'
        exact ⟨u, hu, hok u _ ha ht⟩
      · cases hr
  viable hl kinds failure hr hc := by
    simp only [Parser.validate] at hr
    split at hr
    · rename_i hp'
      cases hr
      obtain ⟨u, v, a, hu, ha⟩ := hp.viable hl hp' hc
      exact ⟨u, v, a, hu, hok _ a ha (hlive hl a)⟩
    · split at hr
      · cases hr
      · rename_i ht
        cases hr
        exact absurd (hfault _ _ ht) (by simp [hc])
  productive hl := by
    obtain ⟨u, a, ha⟩ := hp.productive hl
    exact ⟨u, a, hok u a ha (hlive hl a)⟩

/-! ## Decisions -/

protected theorem peek {f : Option TokenKind → Parser α} (h : ∀ next, Reads live (f next) L) :
    Reads live (.peek f) L where
  sound hr := (h _).sound hr
  viable hl _ _ hr hc := (h _).viable hl hr hc
  productive hl := (h none).productive hl

/-- A kind that is taken begins a phrase. -/
protected theorem choose {f : TokenKind → Option (Parser α)} {otherwise : Parser α}
    (hf : ∀ kind p, f kind = some p → Reads live p (residual L [kind]))
    (ho : Reads live otherwise L) : Reads live (.choose f otherwise) L where
  sound {kinds a rest} hr := by
    cases kinds with
    | nil => exact ho.sound hr
    | cons kind kinds =>
      rw [Parser.run_choose_cons] at hr
      cases hk : f kind with
      | none => exact ho.sound (by simpa [hk] using hr)
      | some p =>
        rw [hk] at hr
        obtain ⟨u, rfl, hu⟩ := (hf kind p hk).sound hr
        exact ⟨kind :: u, rfl, hu⟩
  viable hl kinds failure hr hc := by
    cases kinds with
    | nil => exact ho.viable hl hr hc
    | cons kind kinds =>
      rw [Parser.run_choose_cons] at hr
      cases hk : f kind with
      | none => exact ho.viable hl (by simpa [hk] using hr) hc
      | some p =>
        rw [hk] at hr
        obtain ⟨u, v, a, rfl, hu⟩ := (hf kind p hk).viable hl hr hc
        exact ⟨kind :: u, v, a, rfl, hu⟩
  productive := ho.productive

/-! ## Repetition -/

protected theorem many {next : TokenKind → Option (Parser α)}
    (h : ∀ kind p, next kind = some p → Reads live p (residual L [kind])) :
    Reads live (.many next) (Many L) where
  sound {kinds as rest} hr := by
    change Parser.runMany next kinds = _ at hr
    fun_induction Parser.runMany next kinds generalizing as rest with
    | case1 => cases hr; exact ⟨[], rfl, .nil⟩
    | case2 kind kinds => cases hr; exact ⟨[], rfl, .nil⟩
    | case3 => cases hr
    | case4 => cases hr
    | case5 kind kinds p hk a middle hp _ as last hm ih =>
      cases hr
      obtain ⟨u, rfl, hu⟩ := (h kind p hk).sound hp
      obtain ⟨v, rfl, hv⟩ := ih hm
      exact ⟨kind :: u ++ v, by simp, .cons hu hv⟩
  viable hl kinds failure hr hc := by
    change Parser.runMany next kinds = _ at hr
    fun_induction Parser.runMany next kinds with
    | case1 => cases hr
    | case2 => cases hr
    | case3 kind kinds p hk failure' hp =>
      cases hr
      obtain ⟨u, v, a, rfl, ha⟩ := (h kind p hk).viable hl hp hc
      exact ⟨kind :: u, v, [a], by simp, by simpa using Many.cons (L := L) ha .nil⟩
    | case4 kind kinds p hk a middle hp _ failure' hm ih =>
      cases hr
      obtain ⟨u, rfl, hu⟩ := (h kind p hk).sound hp
      obtain ⟨v, w, as, rfl, hw⟩ := ih hm
      exact ⟨kind :: u ++ v, w, a :: as, by simp, by simpa using Many.cons (L := L) hu hw⟩
    | case5 => cases hr
  productive _ := ⟨[], [], .nil⟩

/-! ## Stars -/

/-- Where a star is a phrase of its own, something else may not begin with one. A phrase
that was begun does not begin with a star, and one that is yet to begin need not. -/
protected theorem starOr {p : Parser α} {L M : Language α} {a : α} (hs : M [.star] a)
    (hp : Reads live p L) (hL : ∀ u b, L u b → u.head? ≠ some .star → M u b) :
    Reads live (Parser.starOr a p) M where
  sound {kinds b rest} hr := by
    cases kinds with
    | nil =>
      obtain ⟨u, hu, hb⟩ := hp.sound hr
      exact ⟨u, hu, hL u b hb (by simp [(List.append_eq_nil_iff.mp hu.symm).1])⟩
    | cons kind kinds =>
      rw [Parser.starOr, Parser.run_choose_cons] at hr
      split at hr
      · rename_i hk
        split at hk
        · cases hk
          cases hr
          exact ⟨[.star], rfl, hs⟩
        · cases hk
      · rename_i hk
        obtain ⟨u, hu, hb⟩ := hp.sound hr
        refine ⟨u, hu, hL u b hb fun hstar => ?_⟩
        cases u with
        | nil => simp at hstar
        | cons k u => simp_all
  viable hl kinds failure hr hc := by
    cases kinds with
    | nil =>
      obtain ⟨u, v, b, hu, hb⟩ := hp.viable hl hr hc
      have hu' := List.append_eq_nil_iff.mp hu.symm
      exact ⟨[], [.star], a, by simp [hu'.2], hs⟩
    | cons kind kinds =>
      rw [Parser.starOr, Parser.run_choose_cons] at hr
      split at hr
      · rename_i hk
        split at hk
        · cases hk
          cases hr
        · cases hk
      · rename_i hk
        obtain ⟨u, v, b, hu, hb⟩ := hp.viable hl hr hc
        cases u with
        | nil => exact ⟨[], [.star], a, hu, hs⟩
        | cons k u =>
          refine ⟨k :: u, v, b, hu, hL _ b hb fun hstar => ?_⟩
          simp_all
  productive _ := ⟨[.star], a, hs⟩

end Reads

/-! ## Relations that are kept

What is shown of parsers by going through the productions is shown once, for any relation that
the ways to put parsers together keep. -/

/-- Parsers that are put together from parsers that stand in the relation to languages stand in
it to the languages that are put together in the same way. -/
structure Compositional (live : Prop) (R : ∀ {α : Type}, Parser α → Language α → Prop) :
    Prop where
  protected productive {α : Type} {p : Parser α} {L : Language α} :
    R p L → live → ∃ u a, L u a
  protected mono {α : Type} {p : Parser α} {L M : Language α} :
    R p L → (∀ u a, L u a → M u a) → R p M
  protected pure {α : Type} {a : α} {L : Language α} : L [] a → R (pure a) L
  protected bind {α β : Type} {p : Parser α} {f : α → Parser β} {L : Language α}
    {M : Language β} : R p L → (∀ u a, L u a → R (f a) (residual M u)) → R (p >>= f) M
  protected fail {α : Type} {cause : List TokenKind → ParseCause} {L : Language α} :
    (live → ∃ u a, L u a) → R (.fail cause) L
  protected validate {α : Type} {p : Parser α} {test : α → Option ParseCause}
    {L M : Language α} : R p L → (∀ u a, L u a → test a = none → M u a) →
    (∀ a cause, test a = some cause → cause.isLimit = true) → (live → ∀ a, test a = none) →
    R (p.validate test) M
  protected peek {α : Type} {f : Option TokenKind → Parser α} {L : Language α} :
    (∀ next, R (f next) L) → R (.peek f) L
  protected choose {α : Type} {f : TokenKind → Option (Parser α)} {otherwise : Parser α}
    {L : Language α} : (∀ kind p, f kind = some p → R p (residual L [kind])) → R otherwise L →
    R (.choose f otherwise) L
  protected many {α : Type} {next : TokenKind → Option (Parser α)} {L : Language α} :
    (∀ kind p, next kind = some p → R p (residual L [kind])) → R (.many next) (Many L)
  protected starOr {α : Type} {p : Parser α} {a : α} {L M : Language α} : M [.star] a → R p L →
    (∀ u b, L u b → u.head? ≠ some .star → M u b) → R (.starOr a p) M

theorem Reads.compositional (live : Prop) : Compositional live (Reads live) where
  productive := Reads.productive
  mono := Reads.mono
  pure := Reads.pure
  bind := Reads.bind
  fail := Reads.fail
  validate := Reads.validate
  peek := Reads.peek
  choose := Reads.choose
  many := Reads.many
  starOr := Reads.starOr

namespace Compositional

variable {α : Type} {live : Prop} {R : ∀ {α : Type}, Parser α → Language α → Prop}
  (hR : Compositional live R) {p : Parser α} {L : Language α}
include hR

/-! ## Tokens and lists -/

theorem expect (kind : TokenKind) : R (.expect kind) fun u _ => u = [kind] := by
  apply hR.choose
  · intro k p hp
    obtain ⟨rfl, rfl⟩ := Option.ite_some_none_eq_some.mp hp
    exact hR.pure rfl
  · exact hR.fail fun _ => ⟨[kind], (), rfl⟩

/-- A kind that has to come next, and what goes on from it. -/
theorem token {kind : TokenKind} {f : Unit → Parser α} (h : R (f ()) (residual L [kind])) :
    R (Parser.expect kind >>= f) L := by
  refine hR.bind (hR.expect kind) ?_
  rintro _ _ rfl
  exact h

theorem skip (kind : TokenKind) : R (.skip kind) (Flag kind) := by
  apply hR.choose
  · intro k p hp
    obtain ⟨rfl, rfl⟩ := Option.ite_some_none_eq_some.mp hp
    exact hR.pure .present
  · exact hR.pure .absent

/-- A part that its first kind announces, and that is absent without it. -/
theorem after {kind : TokenKind} {default : α} (hp : R p (residual L [kind]))
    (hd : L [] default) : R (.after kind p default) L := by
  apply hR.choose
  · intro k q hq
    obtain ⟨rfl, rfl⟩ := Option.ite_some_none_eq_some.mp hq
    exact hp
  · exact hR.pure hd

theorem identifier : R .identifier Name := by
  apply hR.choose
  · intro k p hp
    split at hp
    · cases hp
      exact hR.pure (.mk _)
    · cases hp
  · exact hR.fail fun _ => ⟨_, _, .mk ""⟩

/-- A name that has to come next, and what goes on from it. -/
theorem named {f : String → Parser α}
    (h : ∀ name, R (f name) (residual L [.identifier name])) :
    R (Parser.identifier >>= f) L := by
  refine hR.bind hR.identifier ?_
  rintro _ name ⟨⟩
  exact h name

theorem integer : R .integer fun u n => u = [.literal (.integer n)] := by
  apply hR.choose
  · intro k p hp
    split at hp
    · cases hp
      exact hR.pure rfl
    · cases hp
  · exact hR.fail fun _ => ⟨_, 0, rfl⟩

theorem commaList (hp : R p L) : R (.commaList p) (CommaList L) := by
  refine hR.bind hp fun u a hu => hR.bind (hR.many (L := Behind .comma L) ?_) ?_
  · intro k q hq
    obtain ⟨rfl, rfl⟩ := Option.ite_some_none_eq_some.mp hq
    exact hR.mono hp fun x b hx => ⟨x, rfl, hx⟩
  · intro v as hv
    exact hR.pure (commaList_iff.mpr ⟨u, a, v, as, by simp, rfl, hu, hv⟩)

end Compositional

end SqlSyntax
