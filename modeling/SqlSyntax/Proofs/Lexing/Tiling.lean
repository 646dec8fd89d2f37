import SqlSyntax.Proofs.Lexing.Run

/-!
# Tokens tile their source

A source is its tokens one after another, with gaps before, between and after them. So nothing
of the source is lost, and each token can be read without the others.
-/
namespace SqlSyntax

/-- A text that stands from an offset on is cut into gaps and tokens, up to the end marker. -/
inductive Tiling : (offset : Nat) → List Char → List Token → Prop
  | last : Gap true gap → Tiling offset gap [⟨.endOfInput, .point (offset + byteSize gap)⟩]
  | token : Gap false gap → IsTextOf text kind →
      Tiling (offset + byteSize gap + byteSize text) rest tokens →
      Tiling offset (gap ++ (text ++ rest))
        (⟨kind, offset + byteSize gap, offset + byteSize gap + byteSize text⟩ :: tokens)

namespace Lexer

theorem tiling_of_next {l after : Lexer} {t : Token} {tokens : List Token}
    (h : l.next = (.ok t, after)) (ht : t.isEnd = false)
    (hafter : Tiling after.offset after.rest tokens) : Tiling l.offset l.rest (t :: tokens) := by
  obtain ⟨-, hlast⟩ | ⟨gap, text, kind, goesOn, rest, hl, hgap, hlexeme, -, htoken⟩ |
    ⟨_, _, _, _, -, -, -, herror⟩ := l.next_cases
  · cases h.symm.trans hlast
    exact absurd ht.symm Bool.false_ne_true
  · cases h.symm.trans htoken
    rw [hl]
    exact .token hgap (isTextOf_iff.mpr ⟨goesOn, hlexeme⟩) hafter
  · cases h.symm.trans herror

theorem Reads.tiling {l stop : Lexer} {tokens : List Token} (h : Reads l tokens stop)
    (hgap : Gap true stop.rest) :
    Tiling l.offset l.rest
      (tokens ++ [⟨.endOfInput, .point (stop.offset + byteSize stop.rest)⟩]) := by
  induction h with
  | nil => exact .last hgap
  | cons hnext hend _ ih => exact tiling_of_next hnext hend (ih hgap)

theorem tiling {l : Lexer} {tokens : List Token} (h : l.tokenize.1 = .ok tokens) :
    Tiling l.offset l.rest tokens := by
  obtain ⟨front, stop, hreads, hgap, rfl⟩ := exists_reads_of_ok h
  exact hreads.tiling hgap

end Lexer

/-! ## Tokens of their own -/

/-- The text of a token is read as the token and nothing else. -/
theorem IsTextOf.tokenize_eq {text : List Char} {kind : TokenKind} (h : IsTextOf text kind) :
    tokenize (String.ofList text) = .ok [⟨kind, ⟨0, byteSize text⟩⟩,
      ⟨.endOfInput, .point (byteSize text)⟩] := by
  obtain ⟨goesOn, hlexeme⟩ := isTextOf_iff.mp h
  have hnext := Lexer.next_token 0 .nil hlexeme (hlexeme.stops_of_breaks breaks_nil)
  rw [List.nil_append, List.append_nil, byteSize_nil, Nat.zero_add, Nat.zero_add] at hnext
  rw [tokenize_ofList, Lexer.tokenize_of_next_token hnext hlexeme.not_isEnd,
    Lexer.tokenize_last .nil]
  rfl

/-! ## Sources -/

theorem byteSize_toList (s : String) : byteSize s.toList = s.utf8ByteSize := by
  have hlist : ∀ cs, (String.ofList cs).utf8ByteSize = byteSize cs := by
    intro cs
    induction cs with
    | nil => simp
    | cons c cs ih =>
      have happend : String.ofList (c :: cs) = String.singleton c ++ String.ofList cs := by
        simp
      rw [happend, String.utf8ByteSize_append, String.utf8ByteSize_singleton, ih, byteSize_cons]
  rw [← hlist, String.ofList_toList]

namespace Tiling

variable {offset : Nat} {text : List Char} {tokens : List Token}

/-- Where another text is before it, the text shows its tokens where their spans say. -/
theorem exists_front (h : Tiling offset text tokens) (before : List Char)
    (hoffset : offset = byteSize before) :
    ∃ front, tokens = front ++ [⟨.endOfInput, .point (offset + byteSize text)⟩] ∧
      ∀ t ∈ front, t.span.start < t.span.stop ∧
        ∃ slice, t.span.slice? (before ++ text) = some slice ∧ IsTextOf slice t.kind := by
  induction h generalizing before with
  | last => exact ⟨[], rfl, nofun⟩
  | @token gap text kind offset rest tokens _ htext _ ih =>
    subst hoffset
    obtain ⟨front, rfl, hfront⟩ := ih (before ++ (gap ++ text)) (by simp [Nat.add_assoc])
    have hslice := Span.slice?_append (before ++ gap) text rest
    rw [byteSize_append, List.append_assoc] at hslice
    have hend : byteSize before + byteSize (gap ++ (text ++ rest)) =
        byteSize before + byteSize gap + byteSize text + byteSize rest := by simp [Nat.add_assoc]
    rw [hend]
    refine ⟨_ :: front, rfl, List.forall_mem_cons.mpr ⟨?_, ?_⟩⟩
    · exact ⟨Nat.lt_add_of_pos_right (byteSize_pos htext.ne_nil), text, hslice, htext⟩
    · simpa using hfront

/-- Between the end of one span and the start of the next one is a gap. -/
theorem gaps (h : Tiling offset text tokens) (before : List Char)
    (hoffset : offset = byteSize before) {previous : Span} (hprevious : previous.stop = offset)
    {s : Span} {t : Token} (hpair : (s, t) ∈ (previous :: tokens.map Token.span).zip tokens) :
    s.stop ≤ t.span.start ∧
      ∃ gap, (⟨s.stop, t.span.start⟩ : Span).slice? (before ++ text) = some gap ∧
        Gap t.isEnd gap := by
  induction h generalizing before previous with
  | @last gap offset hgap =>
    obtain ⟨rfl, rfl⟩ := Prod.mk.inj (List.mem_singleton.mp hpair)
    subst hoffset
    rw [hprevious]
    have hslice := Span.slice?_append before gap []
    rw [List.append_nil] at hslice
    exact ⟨Nat.le_add_right _ _, gap, hslice, hgap⟩
  | @token gap text kind offset rest tokens hgap htext _ ih =>
    subst hoffset
    rw [List.map_cons, List.zip_cons_cons, List.mem_cons] at hpair
    obtain hfirst | hpair := hpair
    · obtain ⟨rfl, rfl⟩ := Prod.mk.inj hfirst
      rw [hprevious, htext.not_isEnd]
      exact ⟨Nat.le_add_right _ _, gap, Span.slice?_append before gap (text ++ rest), hgap⟩
    · have hlater := ih (before ++ (gap ++ text)) (by simp [Nat.add_assoc]) rfl hpair
      simpa using hlater

end Tiling

/-- The last token is the end marker, and under the span of each other one is its text. -/
theorem texts_of_tokenize {source : String} {tokens : List Token} {last : Token}
    (h : tokenize source = .ok (tokens ++ [last])) :
    last.kind = .endOfInput ∧
      ∀ t ∈ tokens, ∃ text, t.span.slice? source.toList = some text ∧ IsTextOf text t.kind := by
  obtain ⟨front, hfront, htexts⟩ := (Lexer.tiling h).exists_front [] rfl
  obtain ⟨rfl, hlast⟩ := List.append_inj' hfront rfl
  rw [List.singleton_inj.mp hlast]
  exact ⟨rfl, fun t ht => (htexts t ht).2⟩

/-- A source is read to tokens. Then the last token is the end marker, at the end of the source,
and no other one is. Each of the others has a span that is not empty, and the text under its
span is read as this token and nothing else. No span begins before the one before it ends, and
between the two, as before the first one, is a gap. -/
theorem tokenize_tiles {source : String} {tokens : List Token} (h : tokenize source = .ok tokens) :
    (∃ front, tokens = front ++ [⟨.endOfInput, .point source.utf8ByteSize⟩] ∧
      ∀ t ∈ front, t.kind ≠ .endOfInput ∧ t.span.start < t.span.stop ∧
        ∃ text, t.span.slice? source.toList = some text ∧
          tokenize (String.ofList text) = .ok [⟨t.kind, ⟨0, byteSize text⟩⟩,
            ⟨.endOfInput, .point (byteSize text)⟩]) ∧
    ∀ s t, (s, t) ∈ (Span.point 0 :: tokens.map Token.span).zip tokens →
      s.stop ≤ t.span.start ∧
        ∃ gap, (⟨s.stop, t.span.start⟩ : Span).slice? source.toList = some gap ∧
          Gap t.isEnd gap := by
  have htiling := Lexer.tiling h
  obtain ⟨front, htokens, hfront⟩ := htiling.exists_front [] rfl
  have hsize : (Lexer.start source).offset + byteSize (Lexer.start source).rest =
      source.utf8ByteSize := by
    rw [← byteSize_toList]
    exact Nat.zero_add _
  rw [hsize] at htokens
  refine ⟨⟨front, htokens, fun t ht => ?_⟩, fun _ _ => htiling.gaps [] rfl rfl⟩
  obtain ⟨hspan, text, hslice, htext⟩ := hfront t ht
  exact ⟨htext.ne_endOfInput, hspan, text, hslice, htext.tokenize_eq⟩

/-- Two tokens with comments between them and after them. The slash that begins the block comment
again does not end it. -/
def commented : String := "é--\n/*/*/<>--"

theorem tokenize_tiles_commented :
    tokenize commented = .ok [⟨.identifier "é", ⟨0, 2⟩⟩, ⟨.operator .notEquals, ⟨10, 12⟩⟩,
      ⟨.endOfInput, .point 14⟩] ∧
    (∃ gap, (⟨2, 10⟩ : Span).slice? commented.toList = some gap ∧ Gap false gap) ∧
      ∃ gap, (⟨12, 14⟩ : Span).slice? commented.toList = some gap ∧ Gap true gap := by
  have htokens : tokenize commented = .ok [⟨.identifier "é", ⟨0, 2⟩⟩,
      ⟨.operator .notEquals, ⟨10, 12⟩⟩, ⟨.endOfInput, .point 14⟩] := by
    with_unfolding_all rfl
  obtain ⟨-, hgaps⟩ := tokenize_tiles htokens
  have hinner := hgaps ⟨0, 2⟩ ⟨.operator .notEquals, ⟨10, 12⟩⟩ (by simp)
  have hlast := hgaps ⟨10, 12⟩ ⟨.endOfInput, .point 14⟩ (by simp)
  exact ⟨htokens, hinner.2, hlast.2⟩

end SqlSyntax
