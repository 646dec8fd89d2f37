import SqlSyntax.Source
import SqlSyntax.Proofs.Lexing.Spelling
import SqlSyntax.Proofs.SameKinds

/-!
# Layout and case

A source is written again with other gaps between its tokens, and with reserved words in another
case. It has the same statement then, or the same error but for the place in the source.
-/
namespace SqlSyntax

/-- The word is what the source shows under the token, but for the case of a reserved word. -/
def Rewritten (source : List Char) (t : Token) (word : List Char) : Prop :=
  ∃ text, t.span.slice? source = some text ∧
    (word = text ∨ t.kind.word?.isSome = true ∧ word.map Char.toUpper = text.map Char.toUpper)

/-- A reserved word in another case is a text of the same kind. -/
theorem IsTextOf.recase {text word : List Char} {kind : TokenKind} (h : IsTextOf text kind)
    (hkind : kind.word?.isSome = true) (hword : word.map Char.toUpper = text.map Char.toUpper) :
    IsTextOf word kind := by
  obtain ⟨goesOn, hlexeme⟩ := isTextOf_iff.mp h
  obtain ⟨reserved, hreserved⟩ := Option.isSome_iff_exists.mp hkind
  rw [upper_of_lexeme hlexeme hreserved] at hword
  exact isTextOf_iff.mpr ⟨_, lexeme_of_word? hreserved hword⟩

theorem Rewritten.isTextOf {source text word : List Char} {t : Token}
    (h : Rewritten source t word) (hslice : t.span.slice? source = some text)
    (htext : IsTextOf text t.kind) : IsTextOf word t.kind := by
  obtain ⟨text', hslice', hword⟩ := h
  obtain rfl := Option.some.inj (hslice.symm.trans hslice')
  obtain rfl | ⟨hkind, hcase⟩ := hword
  · exact htext
  · exact htext.recase hkind hcase

theorem texts_of_rewritten {source : List Char} {tokens : List Token} {words : List (List Char)}
    (htexts : ∀ t ∈ tokens, ∃ text, t.span.slice? source = some text ∧ IsTextOf text t.kind)
    (hwords : List.Forall₂ (Rewritten source) tokens words) :
    List.Forall₂ IsTextOf words (tokens.map Token.kind) := by
  induction hwords with
  | nil => exact .nil
  | cons hword _ ih =>
    rw [List.forall_mem_cons] at htexts
    obtain ⟨⟨text, hslice, htext⟩, htexts⟩ := htexts
    exact .cons (hword.isTextOf hslice htext) (ih htexts)

/-- A source written again has tokens of the same kinds. -/
theorem exists_tokenize_rewritten {source source' : String} {tokens : List Token} {last : Token}
    {words : List (List Char)} (h : tokenize source = .ok (tokens ++ [last]))
    (hwords : List.Forall₂ (Rewritten source.toList) tokens words)
    (hspaced : Spaced true words source'.toList) :
    ∃ tokens', tokenize source' = .ok tokens' ∧
      tokens'.map Token.kind = (tokens ++ [last]).map Token.kind := by
  obtain ⟨hlast, htexts⟩ := texts_of_tokenize h
  obtain ⟨tokens', htokens, hkinds⟩ := hspaced.tokenize (texts_of_rewritten htexts hwords) 0
  refine ⟨tokens', htokens, ?_⟩
  rw [hkinds, List.map_append, List.map_singleton, hlast]

theorem content_eq_of_map_kind {tokens tokens' : List Token}
    (h : tokens'.map Token.kind = tokens.map Token.kind) : content tokens' = content tokens := by
  refine content_eq_of_agreeBelow fun i _ => ?_
  rw [kindAt, kindAt, ← List.getElem?_map, ← List.getElem?_map, h]

theorem parseTokens_of_map_kind {tokens tokens' : List Token}
    (h : tokens'.map Token.kind = tokens.map Token.kind) (o : ParserOptions) :
    (∃ s, parseTokens tokens o = .ok s ∧ parseTokens tokens' o = .ok s) ∨
      ∃ cause position span span', parseTokens tokens o = .error ⟨cause, span, position⟩ ∧
        parseTokens tokens' o = .error ⟨cause, span', position⟩ := by
  obtain hok | ⟨cause, position, he, he'⟩ :=
    Session.run_sameKinds (soleStatement_stopsAtEnd o) (s := .start tokens o)
      (t := .start tokens' o) rfl (content_eq_of_map_kind h)
  · exact .inl hok
  · exact .inr ⟨cause, position, _, _, he, he'⟩

theorem parseSource_of_tokenize {source : String} {tokens : List Token}
    (h : tokenize source = .ok tokens) (o : ParserOptions) :
    parseSource source o = (parseTokens tokens o).mapError .parse := by
  simp only [parseSource, h]
  cases parseTokens tokens o <;> rfl

/-- A source that can be read is written again: its tokens as they stand there, but for the case of
reserved words, and any gaps around them that begin with spacing, the first one excepted. Then both
are parsed to the same statement, or to errors at the same token with the same cause, which holds
the message, what is expected and what is found. -/
theorem parseSource_rewritten {source source' : String} {tokens : List Token} {last : Token}
    {words : List (List Char)} (h : tokenize source = .ok (tokens ++ [last]))
    (hwords : List.Forall₂ (Rewritten source.toList) tokens words)
    (hspaced : Spaced true words source'.toList) (o : ParserOptions) :
    (∃ s, parseSource source o = .ok s ∧ parseSource source' o = .ok s) ∨
      ∃ cause position span span',
        parseSource source o = .error (.parse ⟨cause, span, position⟩) ∧
        parseSource source' o = .error (.parse ⟨cause, span', position⟩) := by
  obtain ⟨tokens', htokens, hkinds⟩ := exists_tokenize_rewritten h hwords hspaced
  rw [parseSource_of_tokenize h, parseSource_of_tokenize htokens]
  obtain ⟨s, hs, hs'⟩ | ⟨cause, position, span, span', he, he'⟩ := parseTokens_of_map_kind hkinds o
  · rw [hs, hs']
    exact .inl ⟨s, rfl, rfl⟩
  · rw [he, he']
    exact .inr ⟨cause, position, span, span', rfl, rfl⟩

/-- Words with one space between any two. -/
def plain : String := "DELETE FROM t"

/-- The same words in another case, with comments around them and none of the spaces. -/
def relaid : String := "/*'*/delete\n--`\nFrOm\tt --;"

theorem parseSource_rewritten_relaid :
    parseSource plain ⟨1, false⟩ = .ok (.delete "t" none) ∧
      parseSource relaid ⟨1, false⟩ = .ok (.delete "t" none) := by
  have hplain : tokenize plain = .ok ([⟨.keyword .delete, ⟨0, 6⟩⟩, ⟨.keyword .from, ⟨7, 11⟩⟩,
      ⟨.identifier "t", ⟨12, 13⟩⟩] ++ [⟨.endOfInput, .point 13⟩]) := by
    with_unfolding_all rfl
  have hparse : parseSource plain ⟨1, false⟩ = .ok (.delete "t" none) := by
    with_unfolding_all rfl
  have hwords : List.Forall₂ (Rewritten plain.toList) [⟨.keyword .delete, ⟨0, 6⟩⟩,
      ⟨.keyword .from, ⟨7, 11⟩⟩, ⟨.identifier "t", ⟨12, 13⟩⟩]
      ["delete".toList, "FrOm".toList, "t".toList] :=
    .cons ⟨"DELETE".toList, by decide, .inr (by decide)⟩
      (.cons ⟨"FROM".toList, by decide, .inr (by decide)⟩
        (.cons ⟨"t".toList, by decide, .inl rfl⟩ .nil))
  have hspaced : Spaced true ["delete".toList, "FrOm".toList, "t".toList] relaid.toList := by
    have hlast : Spaced false [] [' ', '-', '-', ';'] :=
      .last (.spacing (by decide) (.lastLine (by decide))) fun _ => breaks_cons (by decide) _
    have hname : Spaced false ["t".toList] (['\t'] ++ ("t".toList ++ [' ', '-', '-', ';'])) :=
      .word (.spacing (by decide) .nil) (fun _ => ⟨by simp, breaks_cons (by decide) _⟩) hlast
    have hline : Gap false ("\n--`\n".toList) :=
      .spacing (by decide) (.line (by decide : '\n' ∉ ['`']) .nil)
    have hblock : Gap false "/*'*/".toList := .block (by decide : ¬['*', '/'] <:+: ['\'']) .nil
    exact .word hblock (by simp)
      (.word hline (fun _ => ⟨by decide, breaks_cons (by decide) _⟩) hname)
  obtain ⟨s, hs, hs'⟩ | ⟨_, _, _, _, he, -⟩ :=
    parseSource_rewritten hplain hwords hspaced ⟨1, false⟩
  · cases hparse.symm.trans hs
    exact ⟨hparse, hs'⟩
  · cases hparse.symm.trans he

end SqlSyntax
