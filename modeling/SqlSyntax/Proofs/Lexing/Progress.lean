import SqlSyntax.Proofs.Lexing.Run
import SqlSyntax.Proofs.Lexing.Slices
import SqlSyntax.Proofs.Lexing.Tiling

/-!
# Progress of the lexer

A call reads a first part of the text that is left, and something of it unless nothing is left,
whether it gives tokens or fails. So the calls of any sequence go through the source from its
start towards its end, and those at the end give the end marker and nothing else.
-/
namespace SqlSyntax

/-- One token, or all that are left. -/
inductive LexCall where
  | next
  | tokenize
  deriving DecidableEq, Inhabited

namespace Lexer

/-! ## Calls -/

def call (l : Lexer) : LexCall → Except LexError (List Token) × Lexer
  | .next => (l.next.1.map fun t => [t], l.next.2)
  | .tokenize => l.tokenize

/-- Where the lexer stands after some calls, of which any may have failed. -/
def after (l : Lexer) : List LexCall → Lexer
  | [] => l
  | c :: cs => (l.call c).2.after cs

/-- One place in a text is another one, or further on if there is any text left. -/
def Advances (l l' : Lexer) : Prop :=
  ∃ used, l.rest = used ++ l'.rest ∧ l'.offset = l.offset + byteSize used ∧
    (used = [] → l.rest = [])

theorem Advances.trans {l₁ l₂ l₃ : Lexer} (h : l₁.Advances l₂) (h' : l₂.Advances l₃) :
    l₁.Advances l₃ := by
  obtain ⟨u, hu, hoffset, hempty⟩ := h
  obtain ⟨v, hv, hoffset', -⟩ := h'
  refine ⟨u ++ v, ?_, ?_, fun h => hempty (List.append_eq_nil_iff.mp h).1⟩
  · rw [hu, hv, List.append_assoc]
  · rw [hoffset', hoffset, byteSize_append, Nat.add_assoc]

theorem Advances.le {l l' : Lexer} (h : l.Advances l') : l.offset ≤ l'.offset := by
  obtain ⟨used, -, hoffset, -⟩ := h
  exact hoffset ▸ Nat.le_add_right _ _

/-- What a call may do. The spans of its tokens lie between where it starts and where it stops,
and the last one ends where it stops; an error is at something that it has read; and where no text
is left it gives the end marker and stays where it is. -/
structure Progress (l : Lexer) (result : Except LexError (List Token) × Lexer) : Prop where
  advances : l.Advances result.2
  tokens : ∀ tokens, result.1 = .ok tokens →
    (tokens.getLast?.map fun t => t.span.stop) = some result.2.offset ∧
      ∀ t ∈ tokens,
        l.offset ≤ t.span.start ∧ t.span.start ≤ t.span.stop ∧ t.span.stop ≤ result.2.offset
  error : ∀ e, result.1 = .error e → l.offset ≤ e.position ∧ e.position < result.2.offset
  atEnd : l.rest = [] → result = (.ok [⟨.endOfInput, .point l.offset⟩], l)

/-! ### One token -/

theorem next_advances (l : Lexer) : l.Advances l.next.2 := by
  obtain ⟨-, hlast⟩ | ⟨gap, text, kind, goesOn, rest, hl, -, hlexeme, -, htoken⟩ |
    ⟨gap, c, cs, cause, hl, -, -, herror⟩ := l.next_cases
  · rw [hlast]
    exact ⟨l.rest, (List.append_nil _).symm, rfl, id⟩
  · rw [htoken]
    refine ⟨gap ++ text, ?_, ?_, fun hnil => ?_⟩
    · rw [hl, List.append_assoc]
    · rw [byteSize_append, Nat.add_assoc]
    · exact absurd (List.append_eq_nil_iff.mp hnil).2 hlexeme.ne_nil
  · rw [herror]
    refine ⟨gap ++ (scan c cs).text, ?_, ?_, fun hnil => ?_⟩
    · rw [hl, List.append_assoc, scan_append]
    · rw [byteSize_append, Nat.add_assoc]
    · exact absurd (List.append_eq_nil_iff.mp hnil).2 (scan_text_ne_nil c cs)

theorem span_of_next {l : Lexer} {t : Token} (h : l.next.1 = .ok t) :
    l.offset ≤ t.span.start ∧ t.span.start ≤ t.span.stop ∧ t.span.stop = l.next.2.offset := by
  obtain ⟨-, hlast⟩ | ⟨gap, text, kind, goesOn, rest, -, -, -, -, htoken⟩ |
    ⟨gap, c, cs, cause, -, -, -, herror⟩ := l.next_cases
  · rw [hlast] at h ⊢
    cases h
    exact ⟨Nat.le_add_right _ _, Nat.le_refl _, rfl⟩
  · rw [htoken] at h ⊢
    cases h
    exact ⟨Nat.le_add_right _ _, Nat.le_add_right _ _, rfl⟩
  · rw [herror] at h
    cases h

theorem position_of_next {l : Lexer} {e : LexError} (h : l.next.1 = .error e) :
    l.offset ≤ e.position ∧ e.position < l.next.2.offset := by
  obtain ⟨-, hlast⟩ | ⟨gap, text, kind, goesOn, rest, -, -, -, -, htoken⟩ |
    ⟨gap, c, cs, cause, -, -, -, herror⟩ := l.next_cases
  · rw [hlast] at h
    cases h
  · rw [htoken] at h
    cases h
  · rw [herror] at h ⊢
    cases h
    exact ⟨Nat.le_add_right _ _, Nat.lt_add_of_pos_right (byteSize_pos (scan_text_ne_nil c cs))⟩

theorem next_progress (l : Lexer) : l.Progress (l.call .next) where
  advances := l.next_advances
  tokens tokens h := by
    cases hnext : l.next.1 with
    | error e =>
      rw [call, hnext] at h
      cases h
    | ok t =>
      rw [call, hnext] at h
      cases h
      obtain ⟨hstart, hspan, hstop⟩ := span_of_next hnext
      refine ⟨congrArg some hstop, fun t' ht => ?_⟩
      obtain rfl := List.mem_singleton.mp ht
      exact ⟨hstart, hspan, Nat.le_of_eq hstop⟩
  error e h := by
    cases hnext : l.next.1 with
    | ok t =>
      rw [call, hnext] at h
      cases h
    | error e' =>
      rw [call, hnext] at h
      cases h
      exact position_of_next hnext
  atEnd h := by
    obtain ⟨offset, rest⟩ := l
    obtain rfl : rest = [] := h
    rw [call, next_last .nil]
    rfl

/-! ### All tokens that are left -/

/-- A token, and what a call from its end on gives. -/
theorem Progress.cons {l after : Lexer} {t : Token}
    {result : Except LexError (List Token) × Lexer} (hnext : l.next = (.ok t, after))
    (ht : t.isEnd = false) (h : after.Progress result) :
    l.Progress (result.1.map (t :: ·), result.2) where
  advances := by
    have hfirst := l.next_advances
    rw [hnext] at hfirst
    exact hfirst.trans h.advances
  tokens tokens htokens := by
    obtain ⟨hstart, hspan, hstop⟩ := span_of_next (l := l) (t := t) (by rw [hnext])
    rw [hnext] at hstop
    cases hresult : result.1 with
    | error e =>
      rw [hresult] at htokens
      cases htokens
    | ok others =>
      rw [hresult] at htokens
      cases htokens
      obtain ⟨hlast, hothers⟩ := h.tokens others hresult
      refine ⟨?_, List.forall_mem_cons.mpr ⟨⟨hstart, hspan, ?_⟩, fun t' ht' => ?_⟩⟩
      · cases others with
        | nil => cases hlast
        | cons o others => exact hlast
      · exact hstop ▸ h.advances.le
      · obtain ⟨hstart', hothers'⟩ := hothers t' ht'
        exact ⟨Nat.le_trans hstart (Nat.le_trans hspan (hstop ▸ hstart')), hothers'⟩
  error e he := by
    have hfirst := l.next_advances.le
    rw [hnext] at hfirst
    cases hresult : result.1 with
    | ok others =>
      rw [hresult] at he
      cases he
    | error e' =>
      rw [hresult] at he
      cases he
      obtain ⟨hposition, hstop⟩ := h.error e hresult
      exact ⟨Nat.le_trans hfirst hposition, hstop⟩
  atEnd hnil := by
    have hend := (l.next_progress).atEnd hnil
    rw [call, hnext] at hend
    obtain ⟨htoken, -⟩ := Prod.mk.inj hend
    cases htoken
    exact absurd ht.symm Bool.false_ne_true

theorem tokenize_progress (l : Lexer) : l.Progress l.tokenize := by
  induction hlength : l.rest.length using Nat.strongRecOn generalizing l with
  | ind n ih =>
    have hone := l.next_progress
    rw [call] at hone
    rw [tokenize_eq]
    cases hnext : l.next with
    | mk outcome after =>
      rw [hnext] at hone
      cases outcome with
      | error e => exact hone
      | ok t =>
        dsimp only
        by_cases ht : t.isEnd = true
        · rw [if_pos ht]
          exact hone
        · have hlt := length_rest_next_lt (l := l) (t := t) (by rw [hnext]) ht
          rw [hnext] at hlt
          rw [if_neg ht]
          exact .cons hnext (Bool.eq_false_iff.mpr ht) (ih _ (hlength ▸ hlt) after rfl)

theorem call_progress (l : Lexer) (c : LexCall) : l.Progress (l.call c) := by
  cases c with
  | next => exact l.next_progress
  | tokenize => exact l.tokenize_progress

end Lexer

/-! ## Slices -/

namespace Bytewise

variable (source : List Char)

def call (pos : Nat) : LexCall → Option (Except LexError (List Token) × Nat)
  | .next => (next source pos).map fun r => (r.1.map fun t => [t], r.2)
  | .tokenize => tokenize source pos

variable {source} {l : Lexer}

theorem textFrom_of_advances {l' : Lexer} (h : textFrom source l.offset = some l.rest)
    (hl : l.Advances l') : textFrom source l'.offset = some l'.rest := by
  obtain ⟨used, hrest, hoffset, -⟩ := hl
  rw [hrest] at h
  exact hoffset ▸ textFrom_append h

theorem loop_tokenRound (h : textFrom source l.offset = some l.rest) (tokens : List Token) :
    loop source (tokenRound source) tokens l.offset =
      some (l.tokenize.1.map (tokens ++ ·), l.tokenize.2.offset) := by
  induction hlength : l.rest.length using Nat.strongRecOn generalizing l tokens with
  | ind n ih =>
    have hadvances := l.next_advances
    have hcall := next_eq h
    rw [Lexer.tokenize_eq]
    cases hnext : l.next with
    | mk outcome after =>
      rw [hnext] at hadvances hcall
      cases outcome with
      | error e =>
        exact loop_of_done (by rw [tokenRound, hcall]; rfl)
      | ok t =>
        dsimp only
        by_cases ht : t.isEnd = true
        · rw [if_pos ht]
          refine loop_of_done ?_
          rw [tokenRound, hcall]
          exact if_pos ht
        · have hround : tokenRound source tokens l.offset =
              some (.again (tokens ++ [t]) after.offset) := by
            rw [tokenRound, hcall]
            exact if_neg ht
          have hlt := Lexer.length_rest_next_lt (l := l) (t := t) (by rw [hnext]) ht
          rw [hnext] at hlt
          have hafter := textFrom_of_advances h hadvances
          obtain ⟨used, hrest, hoffset, -⟩ := hadvances
          have hused : used ≠ [] := by
            rintro rfl
            rw [hrest] at hlt
            exact Nat.lt_irrefl _ hlt
          rw [hrest] at h
          rw [hoffset] at hround
          rw [loop_of_again hused h hround, ← hoffset, ih _ (hlength ▸ hlt) hafter _ rfl,
            if_neg ht]
          cases after.tokenize.1 <;> simp [Except.map]

theorem call_eq (h : textFrom source l.offset = some l.rest) (c : LexCall) :
    call source l.offset c = some ((l.call c).1, (l.call c).2.offset) := by
  cases c with
  | next => rw [call, next_eq h]; rfl
  | tokenize =>
    rw [call, tokenize, loop_tokenRound h]
    rw [Lexer.call]
    cases l.tokenize.1 <;> rfl

end Bytewise

/-! ## Sequences of calls -/

namespace Lexer

open Bytewise

theorem Advances.lt {l l' : Lexer} (h : l.Advances l') (hrest : l.rest ≠ []) :
    l.offset < l'.offset := by
  obtain ⟨used, -, hoffset, hempty⟩ := h
  rw [hoffset]
  exact Nat.lt_add_of_pos_right (byteSize_pos fun hnil => hrest (hempty hnil))

/-- A lexer stands at the end if no text is left. -/
theorem rest_eq_nil_iff {source : List Char} {l : Lexer}
    (h : textFrom source l.offset = some l.rest) :
    l.rest = [] ↔ l.offset = byteSize source := by
  have hsize := add_byteSize_of_textFrom h
  constructor
  · intro hnil
    rw [hnil] at hsize
    exact hsize
  · intro hend
    refine Classical.byContradiction fun hne => ?_
    have hpos := byteSize_pos hne
    omega

/-- Each call before the end goes on by a byte or more. -/
theorem textFrom_after {source : List Char} (calls : List LexCall) {l : Lexer}
    (h : textFrom source l.offset = some l.rest) :
    textFrom source (l.after calls).offset = some (l.after calls).rest ∧
      min (byteSize source) (l.offset + calls.length) ≤ (l.after calls).offset := by
  induction calls generalizing l with
  | nil => exact ⟨h, Nat.min_le_right _ _⟩
  | cons c calls ih =>
    have hadvances := (l.call_progress c).advances
    obtain ⟨htext, hle⟩ := ih (textFrom_of_advances h hadvances)
    refine ⟨htext, ?_⟩
    rw [after, List.length_cons]
    by_cases hrest : l.rest = []
    · have hend := (rest_eq_nil_iff h).mp hrest
      have := hadvances.le
      omega
    · have := hadvances.lt hrest
      omega

theorem textFrom_start (source : String) :
    textFrom source.toList (start source).offset = some (start source).rest :=
  textFrom_eq_some_iff.mpr ⟨[], rfl, rfl⟩

/-- Any calls were made on a lexer over a source, whether they gave tokens or failed. Then it stands
in the source at the start of a character, or at the end, and what is left is the source from there
on. Whichever call is made next, reading by byte offsets from there gives the same, so every slice
that it takes is valid. The call never goes back, and goes on unless the lexer is at the end. The
spans of the tokens that it gives are between where it starts and where it stops, and the last one
ends where it stops. The error that it gives is at or after its start and before its end. At the end
of the source it gives the end marker alone, and the lexer stays there. And the lexer is at the end
after as many calls as the source has bytes. -/
theorem calls_progress (source : String) (calls : List LexCall) :
    let l := (start source).after calls
    let n := source.utf8ByteSize
    l.offset ≤ n ∧ (⟨l.offset, n⟩ : Span).slice? source.toList = some l.rest ∧
      (∀ c,
        Bytewise.call source.toList l.offset c = some ((l.call c).1, (l.call c).2.offset) ∧
        l.offset ≤ (l.call c).2.offset ∧ (l.offset < n → l.offset < (l.call c).2.offset) ∧
        (∀ tokens, (l.call c).1 = .ok tokens →
          (tokens.getLast?.map fun t => t.span.stop) = some (l.call c).2.offset ∧
            ∀ t ∈ tokens, l.offset ≤ t.span.start ∧ t.span.start ≤ t.span.stop ∧
              t.span.stop ≤ (l.call c).2.offset) ∧
        (∀ e, (l.call c).1 = .error e →
          l.offset ≤ e.position ∧ e.position < (l.call c).2.offset) ∧
        (l.offset = n → l.call c = (.ok [⟨.endOfInput, .point n⟩], l))) ∧
      (n ≤ calls.length → l.offset = n) := by
  intro l n
  obtain ⟨htext, hmin⟩ := textFrom_after calls (textFrom_start source)
  change textFrom source.toList l.offset = some l.rest at htext
  change min _ (0 + calls.length) ≤ l.offset at hmin
  have hn : byteSize source.toList = n := byteSize_toList source
  have hsize : l.offset + byteSize l.rest = n := hn ▸ add_byteSize_of_textFrom htext
  have hrest : l.rest = [] ↔ l.offset = n := hn ▸ rest_eq_nil_iff htext
  refine ⟨by omega, ?_, fun c => ?_, fun hcalls => ?_⟩
  · rw [← hsize]
    exact slice?_of_textFrom (u := l.rest) (by rwa [List.append_nil])
  · have hcall := l.call_progress c
    refine ⟨call_eq htext c, hcall.advances.le, fun hlt => ?_, hcall.tokens, hcall.error, ?_⟩
    · exact hcall.advances.lt fun hnil => Nat.ne_of_lt hlt (hrest.mp hnil)
    · intro hend
      rw [hcall.atEnd (hrest.mpr hend), hend]
  · rw [hn] at hmin
    omega

/-- Two calls that fail, at an empty name and at a sign that is none, and what is left for a
third one. -/
def faulty : String := "``!é"

theorem calls_progress_faulty :
    (start faulty).call .next = (.error ⟨.emptyQuotedIdentifier, 0⟩, ⟨2, ['!', 'é']⟩) ∧
      ((start faulty).after [.next]).call .next = (.error ⟨.loneExclamation, 2⟩, ⟨3, ['é']⟩) ∧
      Bytewise.call faulty.toList 3 .tokenize =
        some (.ok [⟨.identifier "é", ⟨3, 5⟩⟩, ⟨.endOfInput, .point 5⟩], 5) ∧
      ((start faulty).after (List.replicate 5 .next)).call .next =
        (.ok [⟨.endOfInput, .point 5⟩], ⟨5, []⟩) := by
  have hfirst : (start faulty).call .next =
      (.error ⟨.emptyQuotedIdentifier, 0⟩, ⟨2, ['!', 'é']⟩) := by
    with_unfolding_all rfl
  have hsecond : ((start faulty).after [.next]).call .next =
      (.error ⟨.loneExclamation, 2⟩, ⟨3, ['é']⟩) := by
    with_unfolding_all rfl
  have hplace : (start faulty).after [.next, .next] = ⟨3, ['é']⟩ := by with_unfolding_all rfl
  have htokens : (⟨3, ['é']⟩ : Lexer).call .tokenize =
      (.ok [⟨.identifier "é", ⟨3, 5⟩⟩, ⟨.endOfInput, .point 5⟩], ⟨5, []⟩) := by
    with_unfolding_all rfl
  obtain ⟨-, -, hcalls, -⟩ := calls_progress faulty [.next, .next]
  obtain ⟨hslices, -⟩ := hcalls .tokenize
  rw [hplace, htokens] at hslices
  obtain ⟨-, -, hcalls, hend⟩ := calls_progress faulty (List.replicate 5 .next)
  obtain ⟨-, -, -, -, -, hlast⟩ := hcalls .next
  have hrest : (start faulty).after (List.replicate 5 .next) = ⟨5, []⟩ := by
    with_unfolding_all rfl
  refine ⟨hfirst, hsecond, hslices, ?_⟩
  rw [hlast (hend (by decide)), hrest]
  rfl

end Lexer

end SqlSyntax
