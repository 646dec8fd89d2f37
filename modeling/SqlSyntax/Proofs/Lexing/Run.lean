import SqlSyntax.Proofs.Lexing.Scan

/-!
# Runs of the lexer

One call reads the last gap, a gap and a token, or a gap before something that is no token. A run
is some calls that give a token each. What a run reads does not depend on what comes after it, as
long as that begins as it does or with spacing; nor does it depend on where the run starts.
-/
namespace SqlSyntax

def Token.shift (n : Nat) (t : Token) : Token := ⟨t.kind, ⟨t.span.start + n, t.span.stop + n⟩⟩

def LexError.shift (n : Nat) (e : LexError) : LexError := ⟨e.cause, e.position + n⟩

/-- Nothing can be read where a text begins. -/
structure Fault (c : Char) (cs : List Char) (cause : LexCause) : Prop where
  spacing : ¬isSpacing c = true
  comment : splitComment? (c :: cs) = none
  kind : (scan c cs).kind = .error cause

namespace Lexer

def shift (n : Nat) (l : Lexer) : Lexer := ⟨l.offset + n, l.rest⟩

/-! ## One call -/

variable {offset : Nat} {gap text rest : List Char} {kind : TokenKind} {goesOn : Char → Bool}

theorem next_last (hgap : Gap true gap) :
    (⟨offset, gap⟩ : Lexer).next =
      (.ok ⟨.endOfInput, .point (offset + byteSize gap)⟩, ⟨offset + byteSize gap, []⟩) := by
  have hsplit := hgap.splitTrivia_append [] fun _ => rfl
  rw [List.append_nil, splitTrivia, List.append_nil] at hsplit
  simp only [next, hsplit]

theorem next_gap (hgap : Gap false gap) :
    (⟨offset, gap ++ rest⟩ : Lexer).next = (⟨offset + byteSize gap, rest⟩ : Lexer).next := by
  have hsplit := hgap.splitTrivia_append rest (by simp)
  simp only [next, hsplit, byteSize_append, Nat.add_assoc]

theorem next_token (offset : Nat) (hgap : Gap false gap) (h : Lexeme text kind goesOn)
    (hrest : Stops goesOn rest) :
    (⟨offset, gap ++ (text ++ rest)⟩ : Lexer).next =
      (.ok ⟨kind, ⟨offset + byteSize gap, offset + byteSize gap + byteSize text⟩⟩,
        ⟨offset + byteSize gap + byteSize text, rest⟩) := by
  have hsplit := h.splitTrivia_eq hrest
  obtain ⟨c, cs, rfl, hscan⟩ := h.exists_scan_eq
  rw [next_gap hgap]
  rw [List.cons_append] at hsplit ⊢
  simp only [next, hsplit, hscan rest hrest, byteSize_nil, Nat.add_zero]

/-- What is no token is scanned all the same, and the call stops after it. -/
theorem next_error (offset : Nat) {c : Char} {cs : List Char} {cause : LexCause}
    (hgap : Gap false gap) (h : Fault c cs cause) :
    (⟨offset, gap ++ c :: cs⟩ : Lexer).next =
      (.error ⟨cause, offset + byteSize gap⟩,
        ⟨offset + byteSize gap + byteSize (scan c cs).text, (scan c cs).rest⟩) := by
  rw [next_gap hgap]
  simp only [next, splitTrivia_of_none h.spacing h.comment, h.kind, byteSize_nil, Nat.add_zero]

/-- All that a call can do. -/
theorem next_cases (l : Lexer) :
    (Gap true l.rest ∧
      l.next = (.ok ⟨.endOfInput, .point (l.offset + byteSize l.rest)⟩,
        ⟨l.offset + byteSize l.rest, []⟩)) ∨
    (∃ gap text kind goesOn rest, l.rest = gap ++ (text ++ rest) ∧
      Gap false gap ∧ Lexeme text kind goesOn ∧ Stops goesOn rest ∧
      l.next = (.ok ⟨kind, ⟨l.offset + byteSize gap, l.offset + byteSize gap + byteSize text⟩⟩,
        ⟨l.offset + byteSize gap + byteSize text, rest⟩)) ∨
    ∃ gap c cs cause, l.rest = gap ++ c :: cs ∧
      Gap false gap ∧ Fault c cs cause ∧
      l.next = (.error ⟨cause, l.offset + byteSize gap⟩,
        ⟨l.offset + byteSize gap + byteSize (scan c cs).text, (scan c cs).rest⟩) := by
  have hgap := gap_splitTrivia l.rest
  have happend := splitTrivia_append l.rest
  cases htext : (splitTrivia l.rest).2 with
  | nil =>
    rw [htext, List.append_nil] at happend
    rw [htext, happend] at hgap
    exact .inl ⟨hgap, next_last hgap⟩
  | cons c cs =>
    rw [htext] at happend hgap
    obtain ⟨hspacing, hcomment⟩ := stops_of_splitTrivia htext
    cases hkind : (scan c cs).kind with
    | ok kind =>
      obtain ⟨goesOn, hlexeme, hstops⟩ := exists_lexeme_of_scan hkind
      have hstops := hstops hcomment
      rw [← scan_append c cs] at happend
      refine .inr (.inl ⟨_, _, kind, goesOn, _, happend.symm, hgap, hlexeme, hstops, ?_⟩)
      rw [← next_token l.offset hgap hlexeme hstops, happend]
    | error cause =>
      have hfault : Fault c cs cause := ⟨hspacing, hcomment, hkind⟩
      refine .inr (.inr ⟨_, c, cs, cause, happend.symm, hgap, hfault, ?_⟩)
      rw [← next_error l.offset hgap hfault, happend]

/-- An error tells of the fault that comes next. -/
theorem exists_fault_of_next_error {l : Lexer} {e : LexError} (h : l.next.1 = .error e) :
    ∃ gap c cs, l.rest = gap ++ c :: cs ∧ Gap false gap ∧ Fault c cs e.cause ∧
      e.position = l.offset + byteSize gap := by
  obtain ⟨-, hlast⟩ | ⟨_, _, _, _, _, -, -, -, -, htoken⟩ |
    ⟨gap, c, cs, cause, hl, hgap, hfault, herror⟩ := l.next_cases
  · rw [hlast] at h
    cases h
  · rw [htoken] at h
    cases h
  · rw [herror] at h
    cases h
    exact ⟨gap, c, cs, hl, hgap, hfault, rfl⟩

/-- Where a call starts shows in spans, positions and where it stops, and in nothing else. -/
theorem next_shift (n : Nat) (l : Lexer) :
    (l.shift n).next =
      ((l.next.1.map (Token.shift n)).mapError (LexError.shift n), l.next.2.shift n) := by
  have hrest : (l.shift n).rest = l.rest := rfl
  have hoffset (k : Nat) : (l.shift n).offset + k = l.offset + k + n := Nat.add_right_comm _ _ _
  unfold next
  cases htext : (splitTrivia l.rest).2 with
  | nil =>
    simp only [hrest, htext, hoffset]
    rfl
  | cons c cs =>
    simp only [hrest, htext, hoffset, Nat.add_right_comm _ n]
    cases (scan c cs).kind <;> rfl

/-! ## Many calls -/

/-- Calls from one place to another, each of which gives a token. -/
inductive Reads : Lexer → List Token → Lexer → Prop
  | nil : Reads l [] l
  | cons : l.next = (.ok t, after) → t.isEnd = false → Reads after tokens stop →
      Reads l (t :: tokens) stop

/-- What the first calls give. -/
def outcomes : Nat → Lexer → List (Except LexError Token)
  | 0, _ => []
  | n + 1, l => l.next.1 :: outcomes n l.next.2

theorem tokenize_last {l : Lexer} (hgap : Gap true l.rest) :
    l.tokenize.1 = .ok [⟨.endOfInput, .point (l.offset + byteSize l.rest)⟩] := by
  have hnext : l.next = (.ok ⟨.endOfInput, .point (l.offset + byteSize l.rest)⟩, _) :=
    next_last hgap
  rw [tokenize_eq, hnext]
  rfl

theorem tokenize_gap (hgap : Gap false gap) :
    (⟨offset, gap ++ rest⟩ : Lexer).tokenize =
      (⟨offset + byteSize gap, rest⟩ : Lexer).tokenize := by
  rw [tokenize_eq, next_gap hgap, ← tokenize_eq]

theorem tokenize_of_next_token {l after : Lexer} {t : Token} (h : l.next = (.ok t, after))
    (ht : t.isEnd = false) : l.tokenize.1 = after.tokenize.1.map (t :: ·) := by
  rw [tokenize_eq, h]
  simp only [ht, Bool.false_eq_true, if_false]

theorem tokenize_of_next_error {l after : Lexer} {e : LexError} (h : l.next = (.error e, after)) :
    l.tokenize.1 = .error e := by
  rw [tokenize_eq, h]

/-- What a call reads is a part of the text. It reads the same there before anything else that
begins as what comes next, or with spacing. -/
theorem exists_append_of_next {l after : Lexer} {t : Token} (h : l.next = (.ok t, after))
    (ht : t.isEnd = false) :
    ∃ used, l.rest = used ++ after.rest ∧ after.offset = l.offset + byteSize used ∧
      ∀ rest, Resumes after.rest rest →
        (⟨l.offset, used ++ rest⟩ : Lexer).next = (.ok t, ⟨after.offset, rest⟩) := by
  obtain ⟨-, hlast⟩ | ⟨gap, text, kind, goesOn, more, hl, hgap, hlexeme, hstops, htoken⟩ |
    ⟨_, _, _, _, -, -, -, herror⟩ := l.next_cases
  · cases h.symm.trans hlast
    exact absurd ht.symm Bool.false_ne_true
  · cases h.symm.trans htoken
    refine ⟨gap ++ text, by rw [hl, List.append_assoc], by rw [byteSize_append, Nat.add_assoc],
      fun rest hrest => ?_⟩
    rw [List.append_assoc]
    exact next_token l.offset hgap hlexeme (hlexeme.stops_of_resumes hstops hrest)
  · cases h.symm.trans herror

namespace Reads

variable {l stop : Lexer} {tokens : List Token}

theorem tokenize_eq (h : Reads l tokens stop) :
    l.tokenize.1 = stop.tokenize.1.map (tokens ++ ·) := by
  induction h with
  | @nil l => generalize l.tokenize.1 = result; cases result <;> rfl
  | cons hnext hend _ ih =>
    rw [tokenize_of_next_token hnext hend, ih]
    generalize Prod.fst _ = result
    cases result <;> rfl

theorem outcomes_eq (h : Reads l tokens stop) (n : Nat) :
    l.outcomes (tokens.length + n) = tokens.map .ok ++ stop.outcomes n := by
  induction h with
  | nil => rw [List.length_nil, Nat.zero_add]; rfl
  | cons hnext _ _ ih =>
    rw [List.length_cons, Nat.add_right_comm, outcomes, hnext, ih]
    rfl

/-- What a run reads is a part of the text, and it reads the same there as one call does. -/
theorem exists_append (h : Reads l tokens stop) :
    ∃ used, l.rest = used ++ stop.rest ∧ stop.offset = l.offset + byteSize used ∧
      ∀ rest, Resumes stop.rest rest →
        Reads ⟨l.offset, used ++ rest⟩ tokens ⟨stop.offset, rest⟩ := by
  induction h with
  | nil => exact ⟨[], rfl, rfl, fun _ _ => .nil⟩
  | cons hnext hend _ ih =>
    obtain ⟨first, hl, hafter, hfirst⟩ := exists_append_of_next hnext hend
    obtain ⟨used, hrest, hoffset, hused⟩ := ih
    refine ⟨first ++ used, ?_, ?_, fun rest hresumes => ?_⟩
    · rw [hl, hrest, List.append_assoc]
    · rw [hoffset, hafter, byteSize_append, Nat.add_assoc]
    · have hresumes' := hrest ▸ hresumes.append used
      rw [List.append_assoc]
      exact .cons (hfirst _ hresumes') hend (hused rest hresumes)

theorem shift (h : Reads l tokens stop) (n : Nat) :
    Reads (l.shift n) (tokens.map (Token.shift n)) (stop.shift n) := by
  induction h with
  | nil => exact .nil
  | cons hnext hend _ ih =>
    refine .cons ?_ hend ih
    rw [next_shift, hnext]
    rfl

end Reads

/-- A run goes up to the last gap or up to the first error. -/
theorem exists_reads (l : Lexer) :
    ∃ tokens stop, Reads l tokens stop ∧ (Gap true stop.rest ∨ ∃ e, stop.next.1 = .error e) := by
  induction hlength : l.rest.length using Nat.strongRecOn generalizing l with
  | ind n ih =>
    obtain ⟨hgap, -⟩ | ⟨gap, text, kind, _, rest, hl, -, hlexeme, -, hnext⟩ |
      ⟨_, _, _, _, -, -, -, hnext⟩ := l.next_cases
    · exact ⟨[], l, .nil, .inl hgap⟩
    · have hlt : rest.length < n := by
        have hpos := List.length_pos_iff.mpr hlexeme.ne_nil
        simp only [hl, List.length_append] at hlength
        omega
      obtain ⟨tokens, stop, hreads, hstop⟩ := ih _ hlt ⟨_, rest⟩ rfl
      exact ⟨_, stop, .cons hnext hlexeme.not_isEnd hreads, hstop⟩
    · exact ⟨[], l, .nil, .inr ⟨_, by rw [hnext]⟩⟩

/-- The tokens are those of a run up to the last gap, and the end marker. -/
theorem exists_reads_of_ok {l : Lexer} {tokens : List Token} (h : l.tokenize.1 = .ok tokens) :
    ∃ front stop, Reads l front stop ∧ Gap true stop.rest ∧
      tokens = front ++ [⟨.endOfInput, .point (stop.offset + byteSize stop.rest)⟩] := by
  obtain ⟨front, stop, hreads, hgap | ⟨e, he⟩⟩ := exists_reads l
  · refine ⟨front, stop, hreads, hgap, ?_⟩
    rw [hreads.tokenize_eq, tokenize_last hgap] at h
    cases h
    rfl
  · rw [hreads.tokenize_eq, tokenize_of_next_error (Prod.ext he rfl)] at h
    cases h

/-- An error is that of the call after a run. -/
theorem exists_reads_of_error {l : Lexer} {e : LexError} (h : l.tokenize.1 = .error e) :
    ∃ front stop, Reads l front stop ∧ stop.next.1 = .error e := by
  obtain ⟨front, stop, hreads, hgap | ⟨e', he⟩⟩ := exists_reads l
  · rw [hreads.tokenize_eq, tokenize_last hgap] at h
    cases h
  · rw [hreads.tokenize_eq, tokenize_of_next_error (Prod.ext he rfl)] at h
    cases h
    exact ⟨front, stop, hreads, he⟩

theorem tokenize_shift (n : Nat) (l : Lexer) :
    (l.shift n).tokenize.1 =
      (l.tokenize.1.map (List.map (Token.shift n))).mapError (LexError.shift n) := by
  cases h : l.tokenize.1 with
  | ok tokens =>
    obtain ⟨front, stop, hreads, hgap, rfl⟩ := exists_reads_of_ok h
    have hlast : (stop.shift n).tokenize.1 =
        .ok [Token.shift n ⟨.endOfInput, .point (stop.offset + byteSize stop.rest)⟩] := by
      rw [tokenize_last (l := stop.shift n) hgap]
      simp only [shift, Token.shift, Span.point, Nat.add_right_comm]
    rw [(hreads.shift n).tokenize_eq, hlast]
    change Except.ok _ = Except.ok (List.map _ (front ++ _))
    rw [List.map_append]
    rfl
  | error e =>
    obtain ⟨front, stop, hreads, he⟩ := exists_reads_of_error h
    have hnext : (stop.shift n).next = (.error (e.shift n), stop.next.2.shift n) := by
      rw [next_shift, he]
      rfl
    rw [(hreads.shift n).tokenize_eq, tokenize_of_next_error hnext]
    rfl

end Lexer

theorem tokenize_ofList (text : List Char) :
    tokenize (String.ofList text) = (⟨0, text⟩ : Lexer).tokenize.1 := by
  rw [tokenize, Lexer.start, String.toList_ofList]

end SqlSyntax
