import SqlSyntax.Proofs.Blame.Source
import SqlSyntax.Proofs.Layout
import SqlSyntax.Proofs.Lexing.Surrounded

/-!
# Parsing with spacing around a source

A source with spacing before and after it is parsed to the same statement, or to the same error but
for its place: what is blamed stands further on by the spacing before it, and what is missing at the
end is missing at the new end.
-/
namespace SqlSyntax

/-- Where a span of a source stands in a larger source that has so many bytes before it. The end of
the one becomes the end of the other. -/
def Span.moved (n size size' : Nat) (s : Span) : Span :=
  if s = .point size then .point size' else ⟨s.start + n, s.stop + n⟩

def ParseError.moved (n size size' : Nat) (e : ParseError) : ParseError :=
  { e with span := e.span.moved n size size' }

/-- An error at the same stage for the same cause. -/
def SourceError.moved (n size size' : Nat) : SourceError → SourceError
  | lex e => .lex (e.shift n)
  | parse e => .parse (e.moved n size size')

/-- The span of a token is not empty, so it is not the one at the end. -/
theorem Span.moved_of_lt {s : Span} (h : s.start < s.stop) (n size size' : Nat) :
    s.moved n size size' = ⟨s.start + n, s.stop + n⟩ := by
  refine if_neg ?_
  rintro rfl
  exact absurd h (Nat.lt_irrefl size)

/-- Tokens before an end marker. -/
def ended (front : List Token) (size : Nat) : List Token :=
  front ++ [⟨.endOfInput, .point size⟩]

variable {front : List Token} {n size size' : Nat}

theorem spanAt_moved (hfront : ∀ t ∈ front, t.span.start < t.span.stop) {position : Nat}
    (hposition : position < (ended front size).length) (o : ParserOptions) :
    (Session.start (ended (front.map (Token.shift n)) size') o).spanAt position =
      ((Session.start (ended front size) o).spanAt position).moved n size size' := by
  simp only [ended, List.length_append, List.length_singleton] at hposition
  simp only [Session.spanAt, Session.start, ended]
  obtain hlt | rfl := Nat.lt_succ_iff_lt_or_eq.mp hposition
  · have hspan := hfront _ (List.getElem_mem hlt)
    have hlt' : position < (front.map (Token.shift n)).length := by rwa [List.length_map]
    rw [List.getElem?_append_left hlt, List.getElem?_append_left hlt', List.getElem?_map,
      List.getElem?_eq_getElem hlt]
    exact (Span.moved_of_lt hspan n size size').symm
  · simp [Span.moved]

theorem parseTokens_moved (hfront : ∀ t ∈ front, t.span.start < t.span.stop) (n size size' : Nat)
    (o : ParserOptions) :
    parseTokens (ended (front.map (Token.shift n)) size') o =
      (parseTokens (ended front size) o).mapError (ParseError.moved n size size') := by
  have hkinds : (ended (front.map (Token.shift n)) size').map Token.kind =
      (ended front size).map Token.kind := by
    simp [ended, Token.shift, Function.comp_def]
  obtain ⟨s, hs, hs'⟩ | ⟨cause, position, he, he'⟩ :=
    Session.run_sameKinds (soleStatement_stopsAtEnd o) (s := .start (ended front size) o)
      (t := .start (ended (front.map (Token.shift n)) size') o) rfl (content_eq_of_map_kind hkinds)
  · have hparse : parseTokens (ended front size) o = .ok s := hs
    rw [hparse]
    exact hs'
  · have hparse : parseTokens (ended front size) o = .error _ := he
    have hposition := position_lt_of_endMarker hparse List.mem_concat_self rfl
    rw [hparse]
    refine he'.trans ?_
    rw [spanAt_moved hfront hposition]
    rfl

/-- Spacing around a source changes its error only in where it is, and nothing if there is none. -/
theorem parseSource_surrounded {before text after : List Char} (hbefore : AllSpacing before)
    (hafter : AllSpacing after) (o : ParserOptions) :
    parseSource (String.ofList (before ++ (text ++ after))) o =
      (parseSource (String.ofList text) o).mapError
        (SourceError.moved (byteSize before) (byteSize text)
          (byteSize (before ++ (text ++ after)))) := by
  cases htokens : tokenize (String.ofList text) with
  | error e =>
    simp only [parseSource, htokens, tokenize_surrounded_of_error hbefore hafter htokens]
    rfl
  | ok tokens =>
    obtain ⟨front, rfl, hmoved⟩ := tokenize_surrounded_of_ok hbefore hafter htokens
    obtain ⟨front', hfront', hspans⟩ := (Lexer.tiling htokens).exists_front [] rfl
    obtain ⟨rfl, -⟩ := List.append_inj' hfront' rfl
    rw [parseSource_of_tokenize htokens, parseSource_of_tokenize hmoved]
    have hparse := parseTokens_moved (fun t ht => (hspans t ht).1) (byteSize before)
      (byteSize text) (byteSize (before ++ (text ++ after))) o
    rw [ended, ended] at hparse
    rw [hparse]
    generalize parseTokens _ o = result
    cases result <;> rfl

end SqlSyntax
