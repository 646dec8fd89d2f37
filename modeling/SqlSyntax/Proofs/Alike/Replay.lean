import SqlSyntax.Proofs.Alike.Statement

/-!
# Runs that are repeated on other tokens

A parser looks at one token past those that it consumes, and so what it does is settled by
the tokens up to that one. With a greater limit of nesting it does the same again, unless
the limit was what stopped it.
-/
namespace SqlSyntax

open SqlSyntax.Parser

theorem ParseCause.unexpected_congr (expected : Expectation) {t t' : List TokenKind}
    (h : t.head? = t'.head?) : unexpected expected t = unexpected expected t' := by
  match t, t' with
  | [], [] => rfl
  | kind :: _, _ :: _ =>
    cases h
    cases kind <;> rfl

/-- What `p` does with some tokens and the next one after them, `q` does with the same tokens
before another continuation that begins in the same way. -/
structure Replays (p q : Parser α) : Prop where
  ok : ∀ {u t t' a}, t.head? = t'.head? → p.run (u ++ t) = .ok (a, t) →
    q.run (u ++ t') = .ok (a, t')
  error : ∀ {u t t' cause rest}, t.head? = t'.head? → cause.isLimit = false →
    p.run (u ++ t) = .error ⟨cause, t, rest⟩ → q.run (u ++ t') = .error ⟨cause, t', t'⟩

namespace Replays

variable {α β : Type} {p q : Parser α}

theorem blamed_suffix {kinds : List TokenKind} {failure : Failure}
    (h : p.run kinds = .error failure) : failure.blamed <:+ kinds := by
  have hp := p.within kinds
  rw [h] at hp
  exact hp.2

/-- What comes before a common end is split where a part of it begins. -/
theorem eq_append_of_append {u v w t : List TokenKind} (h : v ++ (w ++ t) = u ++ t) :
    u = v ++ w := by
  rw [← List.append_assoc] at h
  exact (List.append_cancel_right h).symm

protected theorem pure (a : α) : Replays (pure a) (pure a) where
  ok {u t t' b} _ hr := by
    simp only [run_pure, Except.ok.injEq, Prod.mk.injEq, List.append_left_eq_self] at hr
    obtain ⟨rfl, rfl⟩ := hr
    rfl
  error _ _ hr := nomatch hr

protected theorem bind {f g : α → Parser β} (hp : Replays p q)
    (hf : ∀ a, Replays (f a) (g a)) : Replays (p >>= f) (q >>= g) where
  ok {u t t' b} ht hr := by
    obtain ⟨a, middle, hp', hf'⟩ := run_bind_eq_ok_iff.mp hr
    obtain ⟨w, rfl⟩ := suffix_of_run hf'
    obtain ⟨v, hv⟩ := suffix_of_run hp'
    obtain rfl := eq_append_of_append hv
    rw [List.append_assoc] at hp' ⊢
    exact run_bind_eq_ok_iff.mpr
      ⟨a, w ++ t', hp.ok (by simp [List.head?_append, ht]) hp', (hf a).ok ht hf'⟩
  error {u t t' cause rest} ht hc hr := by
    rw [run_bind] at hr
    cases hp' : p.run (u ++ t) with
    | error failure =>
      rw [hp'] at hr
      cases hr
      rw [run_bind, hp.error ht hc hp']
    | ok result =>
      obtain ⟨a, middle⟩ := result
      rw [hp'] at hr
      obtain ⟨w, rfl⟩ := blamed_suffix hr
      obtain ⟨v, hv⟩ := suffix_of_run hp'
      obtain rfl := eq_append_of_append hv
      rw [List.append_assoc] at hp' ⊢
      rw [run_bind, hp.ok (by simp [List.head?_append, ht]) hp']
      exact (hf a).error ht hc hr

protected theorem unexpected (expected : Expectation) :
    Replays (unexpected expected : Parser α) (unexpected expected) where
  ok _ hr := nomatch hr
  error {u t t' cause rest} ht _ hr := by
    simp only [run_unexpected, Except.error.injEq, Failure.mk.injEq,
      List.append_left_eq_self] at hr
    obtain ⟨rfl, rfl, -⟩ := hr
    simp [ParseCause.unexpected_congr expected ht]

protected theorem validate {test : α → Option ParseCause}
    (htest : ∀ a cause, test a = some cause → cause.isLimit = true) (hp : Replays p q) :
    Replays (p.validate test) (q.validate test) where
  ok ht hr := by
    simp only [Parser.validate] at hr ⊢
    split at hr
    · cases hr
    · rename_i hp'
      split at hr
      · rename_i hnone
        cases hr
        rw [hp.ok ht hp']
        simp [hnone]
      · cases hr
  error ht hc hr := by
    simp only [Parser.validate] at hr ⊢
    split at hr
    · rename_i hp'
      cases hr
      rw [hp.error ht hc hp']
    · split at hr
      · cases hr
      · rename_i hsome
        simp only [Except.error.injEq, Failure.mk.injEq] at hr
        rw [← hr.1, htest _ _ hsome] at hc
        cases hc

protected theorem peek {f g : Option TokenKind → Parser α} (h : ∀ next, Replays (f next) (g next)) :
    Replays (peek f) (peek g) where
  ok {u t t' a} ht hr := by
    rw [run_peek] at hr ⊢
    rw [List.head?_append] at hr ⊢
    rw [← ht]
    exact (h _).ok ht hr
  error {u t t' cause rest} ht hc hr := by
    rw [run_peek] at hr ⊢
    rw [List.head?_append] at hr ⊢
    rw [← ht]
    exact (h _).error ht hc hr

section Decisions

variable {f g : TokenKind → Option (Parser α)}

/-- What follows a decision on one side follows it on the other side too. -/
theorem some_of_some (hs : ∀ kind, (f kind).isSome = (g kind).isSome)
    (hf : ∀ kind p q, f kind = some p → g kind = some q → Replays p q) {kind : TokenKind}
    {p : Parser α} (hk : f kind = some p) : ∃ q, g kind = some q ∧ Replays p q := by
  obtain ⟨q, hq⟩ := Alike.exists_of_isSome_eq hs hk
  exact ⟨q, hq, hf kind p q hk hq⟩

protected theorem choose {p' q' : Parser α}
    (hs : ∀ kind, (f kind).isSome = (g kind).isSome)
    (hf : ∀ kind p q, f kind = some p → g kind = some q → Replays p q)
    (ho : Replays p' q') : Replays (choose f p') (choose g q') where
  ok {u t t' a} ht hr := by
    match u, t, t' with
    | [], [], [] => exact ho.ok (u := []) ht hr
    | [], k :: t, k' :: t' =>
      obtain rfl : k = k' := by simpa using ht
      rw [List.nil_append, run_choose_cons] at hr ⊢
      cases hk : f k with
      | none =>
        rw [hk] at hr
        rw [Alike.none_of_isSome_eq hs hk]
        exact ho.ok (u := []) ht hr
      | some p =>
        rw [hk] at hr
        exact absurd (suffix_of_run hr).length_le (by simp)
    | k :: u, t, t' =>
      rw [List.cons_append, run_choose_cons] at hr ⊢
      cases hk : f k with
      | none =>
        rw [hk] at hr
        rw [Alike.none_of_isSome_eq hs hk]
        exact ho.ok (u := k :: u) ht hr
      | some p =>
        obtain ⟨q, hq, h⟩ := some_of_some hs hf hk
        rw [hk] at hr
        rw [hq]
        exact h.ok ht hr
  error {u t t' cause rest} ht hc hr := by
    match u, t, t' with
    | [], [], [] => exact ho.error (u := []) ht hc hr
    | [], k :: t, k' :: t' =>
      obtain rfl : k = k' := by simpa using ht
      rw [List.nil_append, run_choose_cons] at hr ⊢
      cases hk : f k with
      | none =>
        rw [hk] at hr
        rw [Alike.none_of_isSome_eq hs hk]
        exact ho.error (u := []) ht hc hr
      | some p =>
        rw [hk] at hr
        exact absurd (blamed_suffix hr).length_le (by simp)
    | k :: u, t, t' =>
      rw [List.cons_append, run_choose_cons] at hr ⊢
      cases hk : f k with
      | none =>
        rw [hk] at hr
        rw [Alike.none_of_isSome_eq hs hk]
        exact ho.error (u := k :: u) ht hc hr
      | some p =>
        obtain ⟨q, hq, h⟩ := some_of_some hs hf hk
        rw [hk] at hr
        rw [hq]
        exact h.error ht hc hr

/-- Each round of a repetition is one round of the other. -/
protected theorem many (hs : ∀ kind, (f kind).isSome = (g kind).isSome)
    (hf : ∀ kind p q, f kind = some p → g kind = some q → Replays p q) :
    Replays (many f) (many g) where
  ok {u t t' as} ht hr := by
    change runMany f (u ++ t) = _ at hr
    generalize hk : u ++ t = kinds at hr
    fun_induction runMany f kinds generalizing u t t' as with
    | case1 =>
      obtain ⟨rfl, rfl⟩ := List.append_eq_nil_iff.mp hk
      cases hr
      cases t' with
      | nil => simp
      | cons => simp at ht
    | case2 kind kinds hp =>
      cases hr
      obtain rfl := List.append_left_eq_self.mp hk
      cases t' with
      | nil => simp at ht
      | cons kind' t' =>
        obtain rfl : kind = kind' := by simpa using ht
        exact run_many_of_none (Alike.none_of_isSome_eq hs hp) t'
    | case3 => cases hr
    | case4 => cases hr
    | case5 kind kinds p hp a middle hm _ as last hl ih =>
      cases hr
      obtain ⟨w, rfl⟩ := suffix_of_run (p := many f) hl
      obtain ⟨v, rfl⟩ := suffix_of_run hm
      obtain rfl := eq_append_of_append (v := kind :: v) (w := w) hk.symm
      obtain ⟨q, hq, h⟩ := some_of_some hs hf hp
      have hround : q.run (v ++ (w ++ t')) = .ok (a, w ++ t') :=
        h.ok (by simp [List.head?_append, ht]) hm
      simp only [List.cons_append, List.append_assoc]
      rw [run_many_of_some hq, run_bind_of_ok hround, run_bind_of_ok (ih ht rfl hl), run_pure]
  error {u t t' cause rest} ht hc hr := by
    change runMany f (u ++ t) = _ at hr
    generalize hk : u ++ t = kinds at hr
    fun_induction runMany f kinds generalizing u t t' with
    | case1 => cases hr
    | case2 => cases hr
    | case3 kind kinds p hp failure hm =>
      cases hr
      obtain ⟨v, rfl⟩ := blamed_suffix hm
      obtain rfl := eq_append_of_append (v := [kind]) (w := v) hk.symm
      obtain ⟨q, hq, h⟩ := some_of_some hs hf hp
      rw [List.cons_append, List.nil_append, List.cons_append, run_many_of_some hq, run_bind,
        h.error ht hc hm]
    | case4 kind kinds p hp a middle hm _ failure hl ih =>
      cases hr
      obtain ⟨w, rfl⟩ := blamed_suffix (p := many f) hl
      obtain ⟨v, rfl⟩ := suffix_of_run hm
      obtain rfl := eq_append_of_append (v := kind :: v) (w := w) hk.symm
      obtain ⟨q, hq, h⟩ := some_of_some hs hf hp
      have hround : q.run (v ++ (w ++ t')) = .ok (a, w ++ t') :=
        h.ok (by simp [List.head?_append, ht]) hm
      simp only [List.cons_append, List.append_assoc]
      rw [run_many_of_some hq, run_bind_of_ok hround, run_bind, ih ht rfl hl]
    | case5 => cases hr

end Decisions

end Replays

theorem Alike.replays {Base : ∀ {α : Type}, Parser α → Parser α → Prop}
    (hbase : ∀ {α : Type} {p q : Parser α}, Base p q → Replays p q) {p q : Parser α}
    (h : Alike Base p q) : Replays p q := by
  induction h with
  | base h => exact hbase h
  | pure a => exact .pure a
  | bind _ _ hp hf => exact hp.bind hf
  | unexpected => exact .unexpected _
  | peek _ _ h => exact .peek h
  | chooseOf _ hs _ _ hf ho => exact .choose hs hf ho
  | manyOf _ hs _ hf => exact .many hs hf

/-- The limit of nesting stops a parser at once. -/
theorem Replays.refuse (limit : Nat) (q : Parser α) : Replays (.refuse limit) q where
  ok _ hr := nomatch hr
  error {u t t' cause rest} _ hc hr := by
    change Except.error _ = _ at hr
    simp only [Except.error.injEq, Failure.mk.injEq] at hr
    rw [← hr.1] at hc
    cases hc

/-- Only what is run counts, not its history. -/
theorem Replays.of_run_eq {p q p' q' : Parser α} (h : Replays p q) (hp : p'.run = p.run)
    (hq : q'.run = q.run) : Replays p' q' where
  ok ht hr := by
    rw [hp] at hr
    rw [hq]
    exact h.ok ht hr
  error ht hc hr := by
    rw [hp] at hr
    rw [hq]
    exact h.error ht hc hr

/-- With more levels of nesting the parsers do the same, down to where the fewer levels are
used up. -/
theorem nested_replays {o o' : ParserOptions} (hlax : o.allowJoinWithoutOn = o'.allowJoinWithoutOn)
    {depth depth' : Nat} (h : depth ≤ depth') :
    (nested o depth).Alike Replays (nested o' depth') := by
  induction depth generalizing depth' with
  | zero => exact ⟨.base (.refuse _ _), .base (.refuse _ _)⟩
  | succ depth ih =>
    obtain ⟨k, rfl⟩ := Nat.exists_eq_add_one.mpr (Nat.lt_of_lt_of_le depth.succ_pos h)
    have hn := ih (Nat.le_of_succ_le_succ h)
    have hselect := Alike.selectBody (.tableRef hlax (.base (.unexpected _)) hn) hn
    exact ⟨.base (((Alike.disjunction (.predicate hn)).replays id).of_run_eq rfl rfl),
      .base ((hselect.replays id).of_run_eq rfl rfl)⟩

theorem checksRows_replays : Alike.ChecksRows Replays := by
  intro p q test htest h
  refine (h.replays id).validate fun a cause hc => ?_
  obtain ⟨values, columns, rfl⟩ := htest a cause hc
  rfl

theorem soleStatement_replays {o o' : ParserOptions}
    (hlax : o.allowJoinWithoutOn = o'.allowJoinWithoutOn) (h : o.maxDepth ≤ o'.maxDepth) :
    Replays (soleStatement o) (soleStatement o') :=
  (Alike.soleStatement checksRows_replays (nested_replays hlax h)).replays id

end SqlSyntax
