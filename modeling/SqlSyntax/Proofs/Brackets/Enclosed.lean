import SqlSyntax.Proofs.Brackets.Watched
import SqlSyntax.Proofs.Reading.Statement

/-!
# Brackets around what was read

Where an expression was read, brackets around its tokens leave a phrase with the same value,
on one level of nesting more. Each way to put parsers together keeps that: the expression was
read in one of the parts, and the phrases of the other parts stay what they are.
-/
namespace SqlSyntax

open SqlSyntax.Parser Grammar

/-! ## Brackets in the middle -/

/-- With brackets around the kinds from `place` up to `stop` those before `rest` have the
property. -/
def Enclosed (place stop kinds rest : List TokenKind) (P : List TokenKind → Prop) : Prop :=
  ∃ u v w, kinds = u ++ (v ++ (w ++ rest)) ∧ place = v ++ (w ++ rest) ∧ stop = w ++ rest ∧
    P (u ++ .leftParen :: (v ++ .rightParen :: w))

namespace Enclosed

variable {place stop kinds rest : List TokenKind} {P Q : List TokenKind → Prop}

theorem mono (h : Enclosed place stop kinds rest P) (hPQ : ∀ x, P x → Q x) :
    Enclosed place stop kinds rest Q := by
  obtain ⟨u, v, w, hkinds, hplace, hstop, hP⟩ := h
  exact ⟨u, v, w, hkinds, hplace, hstop, hPQ _ hP⟩

/-- Other kinds may come before. -/
theorem append (h : Enclosed place stop kinds rest P) (x : List TokenKind)
    (hPQ : ∀ y, P y → Q (x ++ y)) : Enclosed place stop (x ++ kinds) rest Q := by
  obtain ⟨u, v, w, rfl, hplace, hstop, hP⟩ := h
  refine ⟨x ++ u, v, w, by simp, hplace, hstop, ?_⟩
  simpa using hPQ _ hP

/-- What is left may begin with more that belongs to it. -/
theorem extend {middle : List TokenKind} (h : Enclosed place stop kinds middle P)
    (hPQ : ∀ x, P x → ∃ y, middle = y ++ rest ∧ Q (x ++ y)) :
    Enclosed place stop kinds rest Q := by
  obtain ⟨u, v, w, rfl, rfl, rfl, hP⟩ := h
  obtain ⟨y, rfl, hQ⟩ := hPQ _ hP
  exact ⟨u, v, w ++ y, by simp, by simp, by simp, by simpa using hQ⟩

theorem leftParen_mem (h : Enclosed place stop kinds rest P) :
    Enclosed place stop kinds rest fun x => P x ∧ .leftParen ∈ x := by
  obtain ⟨u, v, w, hkinds, hplace, hstop, hP⟩ := h
  exact ⟨u, v, w, hkinds, hplace, hstop, hP, by simp⟩

/-- A bracket is no other kind, so what is enclosed begins with it only if it did before. -/
theorem head?_ne (h : Enclosed place stop kinds rest P) {kind : TokenKind}
    (hhead : kinds.head? ≠ some kind) (hkind : kind ≠ .leftParen) :
    Enclosed place stop kinds rest fun x => P x ∧ x.head? ≠ some kind := by
  obtain ⟨u, v, w, rfl, hplace, hstop, hP⟩ := h
  refine ⟨u, v, w, rfl, hplace, hstop, hP, ?_⟩
  cases u with
  | nil => simpa using hkind.symm
  | cons => exact hhead

end Enclosed

/-! ## Parsers that say where they read -/

/-- The parser reads the language, and if it notes in its history that it read from `place` up
to `stop`, then its phrase can have brackets around these kinds. -/
structure Encloses (place stop : List TokenKind) (p : Parser α) (L : Language α) : Prop
    extends Reads False p L where
  enclosed : ∀ {kinds a rest}, p.run kinds = .ok (a, rest) → p.history kinds ≠ [] →
    Enclosed place stop kinds rest fun u => L u a

namespace Encloses

variable {α β : Type} {place stop : List TokenKind} {p : Parser α} {L : Language α}

theorem mono {M : Language α} (hp : Encloses place stop p L) (h : ∀ u a, L u a → M u a) :
    Encloses place stop p M where
  toReads := hp.toReads.mono h
  enclosed hr hh := (hp.enclosed hr hh).mono fun u => h u _

/-- What notes nothing has nothing to enclose. -/
theorem of_history (hp : Reads False p L) (h : ∀ kinds, p.history kinds = []) :
    Encloses place stop p L where
  toReads := hp
  enclosed _ hh := absurd (h _) hh

protected theorem bind {f : α → Parser β} {M : Language β} (hp : Encloses place stop p L)
    (hf : ∀ u a, L u a → Encloses place stop (f a) (residual M u)) :
    Encloses place stop (p >>= f) M where
  toReads := hp.toReads.bind fun u a hu => (hf u a hu).toReads
  enclosed {kinds b rest} hr hh := by
    obtain ⟨a, middle, hp', hf'⟩ := run_bind_eq_ok_iff.mp hr
    rw [history_bind, hp'] at hh
    by_cases hfirst : p.history kinds = []
    · rw [hfirst, List.nil_append] at hh
      obtain ⟨x, rfl, hx⟩ := hp.sound hp'
      exact ((hf x a hx).enclosed hf' hh).append x fun _ hb => hb
    · exact (hp.enclosed hp' hfirst).extend fun x hx => (hf x a hx).sound hf'

protected theorem validate {test : α → Option ParseCause} {M : Language α}
    (hp : Encloses place stop p L) (hok : ∀ u a, L u a → test a = none → M u a)
    (hfault : ∀ a cause, test a = some cause → cause.isLimit = true) :
    Encloses place stop (p.validate test) M where
  toReads := hp.toReads.validate hok hfault nofun
  enclosed {kinds a rest} hr hh := by
    simp only [Parser.validate] at hr
    split at hr
    · cases hr
    · rename_i hp'
      split at hr
      · rename_i ht
        cases hr
        exact (hp.enclosed hp' hh).mono fun u hu => hok u _ hu ht
      · cases hr

protected theorem choose {f : TokenKind → Option (Parser α)} {otherwise : Parser α}
    (hf : ∀ kind p, f kind = some p → Encloses place stop p (residual L [kind]))
    (ho : Encloses place stop otherwise L) : Encloses place stop (.choose f otherwise) L where
  toReads := .choose (fun kind p hk => (hf kind p hk).toReads) ho.toReads
  enclosed {kinds a rest} hr hh := by
    cases kinds with
    | nil => exact ho.enclosed hr hh
    | cons kind kinds =>
      rw [run_choose_cons] at hr
      cases hk : f kind with
      | none => exact ho.enclosed (by simpa [hk] using hr) (by simpa [choose, hk] using hh)
      | some p =>
        rw [hk] at hr
        have hh' : p.history kinds ≠ [] := by simpa [choose, hk] using hh
        exact ((hf kind p hk).enclosed hr hh').append [kind] fun _ ha => ha

/-! ## Repetition -/

/-- The expression was read in one of the rounds. The rounds before it and after it are read
as they were. -/
theorem enclosed_of_rounds {next : TokenKind → Option (Parser α)} {M : Language (List α)}
    (hround : ∀ {kind p kinds a middle as last}, next kind = some p →
      p.run kinds = .ok (a, middle) → (many next).run middle = .ok (as, last) →
      p.history kinds ≠ [] → Enclosed place stop (kind :: kinds) last fun u => M u (a :: as))
    (hothers : ∀ {kind p kinds a middle as last}, next kind = some p →
      p.run kinds = .ok (a, middle) → Enclosed place stop middle last (fun u => M u as) →
      Enclosed place stop (kind :: kinds) last fun u => M u (a :: as))
    {kinds last : List TokenKind} {as : List α} (hr : (many next).run kinds = .ok (as, last))
    (hh : (many next).history kinds ≠ []) : Enclosed place stop kinds last fun u => M u as := by
  change historyMany next kinds ≠ [] at hh
  fun_induction historyMany next kinds generalizing as with
  | case1 => exact absurd rfl hh
  | case2 => exact absurd rfl hh
  | case3 kind kinds p hk failure hp =>
    rw [run_many_of_some hk, run_bind, hp] at hr
    cases hr
  | case4 kind kinds p hk a middle hp _ ih =>
    rw [run_many_of_some hk, run_bind_of_ok hp] at hr
    obtain ⟨as, _, hmany, hpure⟩ := run_bind_eq_ok_iff.mp hr
    cases hpure
    by_cases hfirst : p.history kinds = []
    · rw [hfirst, List.nil_append] at hh
      exact hothers hk hp (ih hmany hh)
    · exact hround hk hp hmany hfirst

protected theorem many {next : TokenKind → Option (Parser α)}
    (h : ∀ kind p, next kind = some p → Encloses place stop p (residual L [kind])) :
    Encloses place stop (.many next) (Many L) where
  toReads := .many fun kind p hk => (h kind p hk).toReads
  enclosed hr hh := by
    have hreads : Reads False (.many next) (Many L) := .many fun kind p hk => (h kind p hk).toReads
    refine enclosed_of_rounds (fun {kind p _ a _ as _} hk hp hmany hfirst => ?_)
      (fun {kind p _ a _ as _} hk hp hmany => ?_) hr hh
    · have hone : Enclosed place stop (kind :: _) _ fun u => L u a :=
        ((h kind p hk).enclosed hp hfirst).append [kind] fun _ ha => ha
      refine hone.extend fun u hu => ?_
      obtain ⟨v, rfl, hv⟩ := hreads.sound hmany
      exact ⟨v, rfl, .cons hu hv⟩
    · obtain ⟨u, rfl, hu⟩ := (h kind p hk).sound hp
      exact hmany.append (kind :: u) fun v hv => .cons hu hv

/-! ## Stars -/

theorem history_starOr_of_head?_ne {kinds : List TokenKind} (a : α) (otherwise : Parser α)
    (h : kinds.head? ≠ some .star) :
    (Parser.starOr a otherwise).history kinds = otherwise.history kinds := by
  cases kinds with
  | nil => rfl
  | cons kind kinds =>
    simp only [Parser.starOr, Parser.choose]
    split
    · rename_i hk
      split at hk
      · exact absurd rfl h
      · cases hk
    · rfl

protected theorem starOr {M : Language α} {a : α} (hs : M [.star] a)
    (hp : Encloses place stop p L) (hL : ∀ u b, L u b → u.head? ≠ some .star → M u b) :
    Encloses place stop (Parser.starOr a p) M where
  toReads := hp.toReads.starOr hs hL
  enclosed {kinds b rest} hr hh := by
    have hstar : kinds.head? ≠ some .star := by
      intro hstar
      obtain ⟨k, rfl⟩ := List.head?_eq_some_iff.mp hstar
      exact hh rfl
    rw [run_starOr_of_head?_ne _ _ hstar] at hr
    rw [history_starOr_of_head?_ne _ _ hstar] at hh
    exact ((hp.enclosed hr hh).head?_ne hstar nofun).mono fun u hu => hL u b hu.1 hu.2

end Encloses

theorem Encloses.compositional (place stop : List TokenKind) :
    Compositional False (Encloses place stop) where
  productive _ h := h.elim
  mono := Encloses.mono
  pure h := .of_history (.pure h) fun _ => rfl
  bind := Encloses.bind
  fail h := .of_history (.fail h) fun _ => rfl
  validate hp hok hfault _ := hp.validate hok hfault
  peek h := ⟨.peek fun next => (h next).toReads, fun hr hh => (h _).enclosed hr hh⟩
  choose := Encloses.choose
  many := Encloses.many
  starOr := Encloses.starOr

end SqlSyntax
