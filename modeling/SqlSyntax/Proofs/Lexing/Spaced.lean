import Mathlib.Data.List.Forall2
import SqlSyntax.Proofs.Lexing.Run

/-!
# Texts put together of tokens

Texts of tokens one after another with gaps between them are read as these tokens, if each text
ends where its token does. Before a gap that begins with spacing every text does, so words with
spacing between them are read as they stand, whatever the gaps are.
-/
namespace SqlSyntax

/-- A text shows tokens of the kinds in order, each after a gap and before what does not go on from
it. -/
inductive Shows : List TokenKind → List Char → Prop
  | last : Gap true gap → Shows [] gap
  | token : Gap false gap → Lexeme text kind goesOn → Stops goesOn rest → Shows kinds rest →
      Shows (kind :: kinds) (gap ++ (text ++ rest))

namespace Shows

variable {kinds : List TokenKind} {text : List Char}

/-- The tokens are those that the text shows. -/
theorem tokenize (h : Shows kinds text) (offset : Nat) :
    ∃ tokens, (⟨offset, text⟩ : Lexer).tokenize.1 = .ok tokens ∧
      tokens.map Token.kind = kinds ++ [.endOfInput] := by
  induction h generalizing offset with
  | last hgap => exact ⟨_, Lexer.tokenize_last hgap, rfl⟩
  | token hgap hlexeme hstops _ ih =>
    obtain ⟨tokens, htokens, hkinds⟩ := ih _
    have hnext := Lexer.next_token offset hgap hlexeme hstops
    have hread := Lexer.tokenize_of_next_token hnext hlexeme.not_isEnd
    rw [htokens] at hread
    refine ⟨_, hread, ?_⟩
    rw [List.map_cons, hkinds]
    rfl

theorem endOfInput_notMem (h : Shows kinds text) : .endOfInput ∉ kinds := by
  induction h with
  | last => exact List.not_mem_nil
  | token _ hlexeme _ _ ih =>
    rw [List.mem_cons, not_or]
    exact ⟨hlexeme.ne_endOfInput.symm, ih⟩

end Shows

/-- A text shows the words in order. A gap before a word, or after the last one, begins with
spacing unless it is the first. -/
inductive Spaced : (first : Bool) → List (List Char) → List Char → Prop
  | last : Gap true gap → (first = false → Breaks gap) → Spaced first [] gap
  | word : Gap false gap → (first = false → gap ≠ [] ∧ Breaks gap) → Spaced false words rest →
      Spaced first (word :: words) (gap ++ (word ++ rest))

namespace Spaced

theorem breaks {words : List (List Char)} {text : List Char} (h : Spaced false words text) :
    Breaks text := by
  cases h with
  | last _ hbreaks => exact hbreaks rfl
  | @word gap _ _ _ _ _ hbreaks =>
    obtain ⟨hgap, hbreaks⟩ := hbreaks rfl
    cases gap with
    | nil => exact absurd rfl hgap
    | cons c gap => exact hbreaks

theorem intercalate_eq (word : List Char) (words : List (List Char)) :
    [' '].intercalate (word :: words) = word ++ words.flatMap ([' '] ++ ·) := by
  induction words generalizing word with
  | nil => simp
  | cons next words ih =>
    rw [List.intercalate_cons_cons, ih, List.flatMap_cons]
    simp

/-- Words with a single space before each. -/
theorem flatMap_space (words : List (List Char)) :
    Spaced false words (words.flatMap ([' '] ++ ·)) := by
  induction words with
  | nil => exact .last .nil fun _ => breaks_nil
  | cons word words ih =>
    rw [List.flatMap_cons, List.append_assoc]
    exact .word (.spacing (by decide) .nil) (fun _ => ⟨by simp, breaks_cons (by decide) []⟩) ih

/-- Words with single spaces between them. -/
theorem intercalate_space (words : List (List Char)) :
    Spaced true words ([' '].intercalate words) := by
  cases words with
  | nil => exact .last .nil (by simp)
  | cons word words =>
    rw [intercalate_eq]
    exact .word .nil (by simp) (flatMap_space words)

/-- Words show what they are texts of, as spacing goes on from none of them. -/
theorem shows {first : Bool} {words : List (List Char)} {text : List Char}
    (h : Spaced first words text) {kinds : List TokenKind}
    (hkinds : List.Forall₂ IsTextOf words kinds) : Shows kinds text := by
  induction h generalizing kinds with
  | last hgap =>
    cases hkinds
    exact .last hgap
  | word hgap _ hrest ih =>
    cases hkinds with
    | cons hword hwords =>
      obtain ⟨goesOn, hlexeme⟩ := isTextOf_iff.mp hword
      exact .token hgap hlexeme (hlexeme.stops_of_breaks hrest.breaks) (ih hwords)

/-- The kinds of the tokens are those of the words. -/
theorem tokenize {first : Bool} {words : List (List Char)} {text : List Char}
    (h : Spaced first words text) {kinds : List TokenKind}
    (hkinds : List.Forall₂ IsTextOf words kinds) (offset : Nat) :
    ∃ tokens, (⟨offset, text⟩ : Lexer).tokenize.1 = .ok tokens ∧
      tokens.map Token.kind = kinds ++ [.endOfInput] :=
  (h.shows hkinds).tokenize offset

end Spaced

end SqlSyntax
