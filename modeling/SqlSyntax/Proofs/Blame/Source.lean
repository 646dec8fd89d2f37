import SqlSyntax.Proofs.Blame.Session
import SqlSyntax.Proofs.CorrectPrefix
import SqlSyntax.Proofs.Lexing.Cut
import SqlSyntax.Source

/-!
# Errors of a source

A lexical error is at a character of its source. A syntax error is at one of its tokens, never
past the end marker, and its span shows the text of that token.
-/
namespace SqlSyntax

/-! ## Lexical errors -/

/-- An error is at the character that follows the tokens and the gap before it. -/
theorem exists_append_of_lexError {source : String} {e : LexError}
    (h : tokenize source = .error e) :
    ∃ before text, source.toList = before ++ text ∧ e.position = byteSize before := by
  obtain ⟨front, stop, hreads, he⟩ := Lexer.exists_reads_of_error h
  obtain ⟨used, hused, hoffset, -⟩ := hreads.exists_append
  obtain ⟨gap, text, hrest, -, -, hposition⟩ := Lexer.exists_of_next_error he
  refine ⟨used ++ gap, text, ?_, ?_⟩
  · rw [List.append_assoc, ← hrest]
    exact hused
  · rw [hposition, hoffset, byteSize_append]
    exact congrArg (· + byteSize gap) (Nat.zero_add _)

/-! ## Syntax errors -/

/-- No error is past an end marker. -/
theorem position_lt_of_endMarker {tokens : List Token} {o : ParserOptions} {e : ParseError}
    (h : parseTokens tokens o = .error e) {t : Token} (ht : t ∈ tokens)
    (hend : t.kind = .endOfInput) : e.position < tokens.length := by
  obtain ⟨u, blamed, -, hu, hposition, -⟩ := failure_of_parseTokens h
  obtain ⟨v, -, hv⟩ := exists_map_kind_eq tokens
  have hlength := congrArg List.length hv
  rw [hu, List.length_map, List.length_append, List.length_append, hposition] at hlength
  have hpos : 0 < v.length := by
    rw [List.length_pos_iff]
    rintro rfl
    rw [List.append_nil] at hv
    exact endOfInput_notMem_content tokens (hv ▸ hend ▸ List.mem_map_of_mem ht)
  omega

/-- The text under the span of a token is read as this token and the end. -/
def Token.ReadsBack (t : Token) (source : String) : Prop :=
  ∃ text, t.span.slice? source.toList = some text ∧
    tokenize (String.ofList text) = .ok
      (if t.isEnd then [⟨.endOfInput, .point 0⟩]
        else [⟨t.kind, ⟨0, byteSize text⟩⟩, ⟨.endOfInput, .point (byteSize text)⟩])

theorem readsBack_of_tokenize {source : String} {tokens : List Token}
    (h : tokenize source = .ok tokens) : ∀ t ∈ tokens, t.ReadsBack source := by
  obtain ⟨front, rfl, hfront⟩ := (Lexer.tiling h).exists_front [] rfl
  intro t ht
  obtain ht | ht := List.mem_append.mp ht
  · obtain ⟨-, text, hslice, htext⟩ := hfront t ht
    exact ⟨text, hslice, by rw [htext.not_isEnd]; exact htext.tokenize_eq⟩
  · obtain rfl := List.mem_singleton.mp ht
    refine ⟨[], Span.slice?_eq_some_iff.mpr ⟨source.toList, [], by simp, ?_⟩, ?_⟩
    · simp [Lexer.start, Span.point]
    · rw [tokenize_ofList, Lexer.tokenize_last .nil]
      rfl

theorem exists_token_of_parseError {source : String} {tokens : List Token} {o : ParserOptions}
    {e : ParseError} (htokens : tokenize source = .ok tokens)
    (h : parseTokens tokens o = .error e) :
    ∃ t, tokens[e.position]? = some t ∧ e.span = t.span ∧ t.ReadsBack source := by
  obtain ⟨front, hfront, -⟩ := (Lexer.tiling htokens).exists_front [] rfl
  have hlast : (⟨.endOfInput, _⟩ : Token) ∈ tokens := hfront ▸ List.mem_concat_self
  have hlt := position_lt_of_endMarker h hlast rfl
  have ht := List.getElem?_eq_getElem hlt
  obtain ⟨-, hspan, -⟩ := Session.call_error .parse (Nat.zero_le _) (Prod.ext h rfl)
  refine ⟨_, ht, ?_, readsBack_of_tokenize htokens _ (List.getElem_mem hlt)⟩
  rw [hspan, ht]
  rfl

/-- The offset of an error is that of a character, or the end of the source; for a syntax error it
is where a token begins. -/
theorem exists_append_of_parseSource {source : String} {o : ParserOptions} {e : SourceError}
    (h : parseSource source o = .error e) :
    (∃ before rest, source.toList = before ++ rest ∧ e.offset = byteSize before) ∧
      ∀ error, e = .parse error → ∃ tokens t, tokenize source = .ok tokens ∧
        tokens[error.position]? = some t ∧ error.span = t.span ∧ t.ReadsBack source := by
  rw [parseSource] at h
  split at h
  · rename_i lexError htokens
    cases h
    refine ⟨exists_append_of_lexError htokens, fun error herror => ?_⟩
    cases herror
  · rename_i tokens htokens
    split at h
    · rename_i parseError hparse
      cases h
      obtain ⟨t, ht, hspan, hback⟩ := exists_token_of_parseError htokens hparse
      refine ⟨?_, fun error herror => ?_⟩
      · obtain ⟨text, hslice, -⟩ := hback
        obtain ⟨before, rest, hsource, hs⟩ := Span.slice?_eq_some_iff.mp hslice
        exact ⟨before, text ++ rest, hsource, by rw [SourceError.offset, hspan, hs]⟩
      · cases herror
        exact ⟨tokens, t, htokens, ht, hspan, hback⟩
    · cases h

/-! ## All errors -/

/-- Every syntax error is about the token at its position, whatever calls were made before the
one that fails and however that one parses. The position is at most the number of tokens, the
span is that of the token, or empty at the start past the last one, and the error tells what
stands there, while the session stands there too, or after the row that it is about. Every error
of a source has an offset inside the source and at the start of a character, or at the end; a
syntax error of a source is at one of its tokens, whose text under the span is read as this
token again. -/
theorem error_at_token (o : ParserOptions) :
    (∀ tokens calls c e after,
      ((Session.start tokens o).after calls).call c = (.error e, after) →
        e.position ≤ tokens.length ∧
          e.span = (tokens[e.position]?.map Token.span).getD (.point 0) ∧
          e.Explains tokens o ((Session.start tokens o).after calls).cursor after.cursor) ∧
    ∀ source e, parseSource source o = .error e →
      e.offset ≤ source.utf8ByteSize ∧
        (∃ before, (⟨0, e.offset⟩ : Span).slice? source.toList = some before) ∧
        ∀ error, e = .parse error → ∃ tokens t, tokenize source = .ok tokens ∧
          tokens[error.position]? = some t ∧ error.span = t.span ∧ t.ReadsBack source := by
  refine ⟨fun tokens calls c e after h => ?_, fun source e h => ?_⟩
  · obtain ⟨cursor, hle, hafter⟩ := Session.after_calls tokens o calls (Nat.zero_le tokens.length)
    change (Session.start tokens o).after calls = _ at hafter
    rw [hafter] at h ⊢
    obtain ⟨hposition, hspan, -, hexplains⟩ := Session.call_error c hle h
    exact ⟨hposition, hspan, hexplains⟩
  · obtain ⟨⟨before, rest, hsource, hoffset⟩, htoken⟩ := exists_append_of_parseSource h
    refine ⟨?_, ⟨before, ?_⟩, htoken⟩
    · rw [hoffset, ← byteSize_toList, hsource, byteSize_append]
      exact Nat.le_add_right _ _
    · refine Span.slice?_eq_some_iff.mpr ⟨[], rest, hsource, ?_⟩
      rw [hoffset, byteSize_nil, Nat.zero_add]

/-- `SELECT a INSERT INTO t (a) VALUES (1), (1, 2)`: two statements with nothing between them, the
second one with a row too wide. -/
def wideRow : List Token :=
  tokensOf [.keyword .select, .identifier "a", .keyword .insert, .keyword .into, .identifier "t",
    .leftParen, .identifier "a", .rightParen, .keyword .values, .leftParen,
    .literal (.integer 1), .rightParen, .comma, .leftParen, .literal (.integer 1), .comma,
    .literal (.integer 2), .rightParen, .endOfInput]

/-- The first call leaves the insertion, the second one fails at its second row. And a word where
a source should end is found after a letter of two bytes. -/
theorem error_at_token_wideRow :
    ((Session.start wideRow ⟨2, true⟩).after [.parseStatement]).call .parse =
        (.error ⟨.rowWidth 2 1, .point 0, 13⟩, ⟨wideRow, 18, ⟨2, true⟩⟩) ∧
      ParseError.Explains ⟨.rowWidth 2 1, .point 0, 13⟩ wideRow ⟨2, true⟩ 2 18 ∧
      parseSource "SELECT é 1" ⟨2, true⟩ =
        .error (.parse ⟨.unexpectedToken .endOfStatement (.literal (.integer 1)), ⟨10, 11⟩, 2⟩) ∧
      (⟨.literal (.integer 1), ⟨10, 11⟩⟩ : Token).ReadsBack "SELECT é 1" := by
  have hcall : ((Session.start wideRow ⟨2, true⟩).after [.parseStatement]).call .parse =
      (.error ⟨.rowWidth 2 1, .point 0, 13⟩, ⟨wideRow, 18, ⟨2, true⟩⟩) := by
    with_unfolding_all rfl
  have hsource : parseSource "SELECT é 1" ⟨2, true⟩ =
      .error (.parse ⟨.unexpectedToken .endOfStatement (.literal (.integer 1)), ⟨10, 11⟩, 2⟩) := by
    with_unfolding_all rfl
  have htokens : tokenize "SELECT é 1" = .ok [⟨.keyword .select, ⟨0, 6⟩⟩, ⟨.identifier "é", ⟨7, 9⟩⟩,
      ⟨.literal (.integer 1), ⟨10, 11⟩⟩, ⟨.endOfInput, .point 11⟩] := by
    with_unfolding_all rfl
  obtain ⟨hcalls, hsources⟩ := error_at_token ⟨2, true⟩
  have hcursor : ((Session.start wideRow ⟨2, true⟩).after [.parseStatement]).cursor = 2 := by
    with_unfolding_all rfl
  obtain ⟨-, -, hexplains⟩ := hcalls wideRow [.parseStatement] .parse _ _ hcall
  rw [hcursor] at hexplains
  obtain ⟨-, -, htoken⟩ := hsources "SELECT é 1" _ hsource
  obtain ⟨tokens, t, htokens', ht, -, hback⟩ := htoken _ rfl
  obtain rfl := Except.ok.inj (htokens.symm.trans htokens')
  obtain rfl := Option.some.inj ht
  exact ⟨hcall, hexplains, hsource, hback⟩

end SqlSyntax
