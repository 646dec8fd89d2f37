import SqlSyntax.Token.Trivia
import SqlSyntax.Token.Scan

/-!
# Reading tokens from a source

A lexer is a place in a source: how many bytes are read and the text that is left. Each
call reads one token, or fails and stops after the text that it could not use, so that
the calls after it go on from there. At the end every call gives the end marker.
-/
namespace SqlSyntax

structure Lexer where
  offset : Nat
  rest : List Char

namespace Lexer

def start (source : String) : Lexer := ⟨0, source.toList⟩

/-- Reads one token. -/
def next (l : Lexer) : Except LexError Token × Lexer :=
  let (gap, text) := splitTrivia l.rest
  let start := l.offset + byteSize gap
  match text with
  | [] => (.ok ⟨.endOfInput, .point start⟩, ⟨start, []⟩)
  | c :: cs =>
    let s := scan c cs
    let stop := start + byteSize s.text
    match s.kind with
    | .ok kind => (.ok ⟨kind, ⟨start, stop⟩⟩, ⟨stop, s.rest⟩)
    | .error cause => (.error ⟨cause, start⟩, ⟨stop, s.rest⟩)

theorem length_rest_next_lt {l : Lexer} {t : Token} (h : l.next.1 = .ok t) (ht : ¬ t.isEnd) :
    l.next.2.rest.length < l.rest.length := by
  have happ := congrArg List.length (splitTrivia_append l.rest)
  unfold next at h ⊢
  cases htext : (splitTrivia l.rest).2 with
  | nil =>
    simp only [htext, Except.ok.injEq] at h
    simp [← h, Token.isEnd] at ht
  | cons c cs =>
    simp only [htext] at h ⊢
    have := scan_rest_length_le c cs
    simp only [htext, List.length_append, List.length_cons] at happ
    split <;> simp only <;> omega

/-- Reads tokens up to the end marker, or up to the first error. -/
def tokenize (l : Lexer) : Except LexError (List Token) × Lexer :=
  match h : l.next.1 with
  | .error e => (.error e, l.next.2)
  | .ok t =>
    if ht : t.isEnd then (.ok [t], l.next.2)
    else
      have := length_rest_next_lt h ht
      let (tokens, last) := l.next.2.tokenize
      (tokens.map (t :: ·), last)
termination_by l.rest.length

theorem tokenize_eq (l : Lexer) :
    l.tokenize = match l.next with
      | (.error e, after) => (.error e, after)
      | (.ok t, after) =>
        if t.isEnd then (.ok [t], after)
        else (after.tokenize.1.map (t :: ·), after.tokenize.2) := by
  rw [tokenize]
  split
  · rename_i e h
    rw [show l.next = (.error e, l.next.2) from Prod.ext h rfl]
  · rename_i t h
    dsimp only
    rw [show l.next = (.ok t, l.next.2) from Prod.ext h rfl]
    by_cases ht : t.isEnd <;> simp [ht]

end Lexer

/-- The tokens of a source, of which the last and only the last is the end marker. -/
def tokenize (source : String) : Except LexError (List Token) := (Lexer.start source).tokenize.1

end SqlSyntax
