import SqlSyntax.Proofs.Lexing.Run

/-!
# What strings stand for

Between the quotes of a string are items: a character, a quote written twice, or a backslash and
any character. The string ends at the first quote after such items that is not doubled, and its
value is what the items stand for, one after another. Without such a quote there is no string, and
the call goes up to the end.
-/
namespace SqlSyntax

/-- The characters that stand for one character after a backslash. -/
def escapes : List (Char × Char) :=
  [('n', '\n'), ('t', '\t'), ('r', '\r'), ('0', '\x00'), ('\\', '\\'), ('\'', '\''), ('"', '"')]

inductive StringItem where
  | plain (c : Char)
  | doubled
  | escape (c : Char)

namespace StringItem

variable (quote : Char)

/-- A plain character is neither the quote nor a backslash. -/
def Fits : StringItem → Prop
  | plain c => c ≠ quote ∧ c ≠ '\\'
  | doubled | escape _ => True

instance : (item : StringItem) → Decidable (item.Fits quote)
  | plain c => inferInstanceAs (Decidable (c ≠ quote ∧ c ≠ '\\'))
  | doubled | escape _ => inferInstanceAs (Decidable True)

def text : StringItem → List Char
  | plain c => [c]
  | doubled => [quote, quote]
  | escape c => ['\\', c]

/-- The backslash is kept before a character that has no meaning after it. -/
def value : StringItem → List Char
  | plain c => [c]
  | doubled => [quote]
  | escape c => ((escapes.lookup c).map ([·])).getD ['\\', c]

/-- The text after an opening quote is cut at the quote that closes the string. -/
structure Cut (items : List StringItem) (rest text : List Char) : Prop where
  fits : ∀ item ∈ items, item.Fits quote
  text_eq : text = items.flatMap (StringItem.text quote) ++ quote :: rest
  closed : rest.head? ≠ some quote

variable {quote}

theorem escaped_eq (c : Char) : Scan.escaped c = (escape c).value quote := by
  unfold Scan.escaped
  split
  case h_8 =>
    have hnone : escapes.lookup c = none := List.lookup_eq_none_iff.mpr (by simp_all [escapes])
    rw [value, hnone]
    rfl
  all_goals rfl

theorem stringText_iff {text value : List Char} :
    StringText quote text value ↔ ∃ items : List StringItem, (∀ item ∈ items, item.Fits quote) ∧
      text = items.flatMap (StringItem.text quote) ∧
      value = items.flatMap (StringItem.value quote) := by
  constructor
  · intro h
    induction h with
    | nil => exact ⟨[], nofun, rfl, rfl⟩
    | @plain c text value hc hback _ ih =>
      obtain ⟨items, hfits, rfl, rfl⟩ := ih
      exact ⟨.plain c :: items, List.forall_mem_cons.mpr ⟨⟨hc, hback⟩, hfits⟩, rfl, rfl⟩
    | doubled _ ih =>
      obtain ⟨items, hfits, rfl, rfl⟩ := ih
      exact ⟨.doubled :: items, List.forall_mem_cons.mpr ⟨trivial, hfits⟩, rfl, rfl⟩
    | @escape text value c _ ih =>
      obtain ⟨items, hfits, rfl, rfl⟩ := ih
      refine ⟨.escape c :: items, List.forall_mem_cons.mpr ⟨trivial, hfits⟩, rfl, ?_⟩
      rw [List.flatMap_cons, ← escaped_eq]
  · rintro ⟨items, hfits, rfl, rfl⟩
    induction items with
    | nil => exact .nil
    | cons item items ih =>
      rw [List.forall_mem_cons] at hfits
      rw [List.flatMap_cons, List.flatMap_cons]
      cases item with
      | plain c => exact .plain hfits.1.1 hfits.1.2 (ih hfits.2)
      | doubled => exact .doubled (ih hfits.2)
      | escape c =>
        rw [← escaped_eq]
        exact .escape (ih hfits.2)

end StringItem

theorem stops_quote_iff {quote : Char} {rest : List Char} :
    Stops (fun d => d = quote) rest ↔ rest.head? ≠ some quote := by
  constructor
  · intro h hhead
    exact of_decide_eq_false (h quote hhead) rfl
  · intro h d hd
    refine decide_eq_false ?_
    rintro rfl
    exact h hd

/-- A text after an opening quote is read as a string if and only if it can be cut. -/
theorem Scan.exists_stringBody?_iff {quote : Char} (hquote : IsQuote quote) {text : List Char} :
    (∃ b, stringBody? quote text = some b) ↔
      ∃ items rest, StringItem.Cut quote items rest text := by
  constructor
  · rintro ⟨b, hb⟩
    obtain ⟨body, hbody, htext, hstops⟩ := exists_stringText hb
    obtain ⟨items, hfits, rfl, -⟩ := StringItem.stringText_iff.mp hbody
    refine ⟨items, b.rest, hfits, ?_, stops_quote_iff.mp hstops⟩
    rw [← stringBody?_append hb, htext, List.append_assoc, List.singleton_append]
  · rintro ⟨items, rest, hfits, rfl, hclosed⟩
    have hbody := StringItem.stringText_iff.mpr ⟨items, hfits, rfl, rfl⟩
    exact ⟨_, stringBody?_append_quote hquote.ne_backslash hbody (stops_quote_iff.mpr hclosed)⟩

namespace Lexer

variable {quote : Char} {gap text rest : List Char} {items : List StringItem}

theorem next_of_cut (hquote : IsQuote quote) (hgap : Gap false gap) (offset : Nat)
    (h : StringItem.Cut quote items rest text) :
    let stop := offset + byteSize gap +
      byteSize (quote :: (items.flatMap (StringItem.text quote) ++ [quote]))
    (⟨offset, gap ++ quote :: text⟩ : Lexer).next =
      (.ok ⟨.literal (.string (String.ofList (items.flatMap (StringItem.value quote)))),
        ⟨offset + byteSize gap, stop⟩⟩, ⟨stop, rest⟩) := by
  obtain ⟨hfits, rfl, hclosed⟩ := h
  have hlexeme := Lexeme.string hquote (StringItem.stringText_iff.mpr ⟨items, hfits, rfl, rfl⟩)
  have hnext := next_token offset hgap hlexeme (stops_quote_iff.mpr hclosed)
  simpa using hnext

theorem next_of_no_cut (hquote : IsQuote quote) (hgap : Gap false gap) (offset : Nat)
    (h : ¬∃ items rest, StringItem.Cut quote items rest text) :
    (⟨offset, gap ++ quote :: text⟩ : Lexer).next =
      (.error ⟨.openString, offset + byteSize gap⟩,
        ⟨offset + byteSize gap + byteSize (quote :: text), []⟩) := by
  have hbody : Scan.stringBody? quote text = none := by
    rw [← Scan.exists_stringBody?_iff hquote, ← Option.isSome_iff_exists] at h
    exact Option.not_isSome_iff_eq_none.mp h
  have hscan : scan quote text = ⟨.error .openString, quote :: text, []⟩ := by
    rw [scan_quote hquote, Scan.string, hbody]
  have hspacing : ¬isSpacing quote = true := by
    obtain rfl | rfl := hquote <;> decide
  have hcomment : splitComment? (quote :: text) = none := by
    obtain rfl | rfl := hquote <;> exact splitComment?_of_ne (by decide) (by decide) text
  have hnext := next_error offset hgap ⟨hspacing, hcomment, congrArg Scan.kind hscan⟩
  rwa [hscan] at hnext

/-- After any gap a quote opens a string if and only if the text after it can be cut into items, a
quote, and a rest that does not begin with the quote. The call stops right after that quote, and
the value of the string is what the items stand for. A text that cannot be cut is used up by an
error at the opening quote. -/
theorem next_string (hquote : IsQuote quote) (hgap : Gap false gap) (offset : Nat)
    (text : List Char) :
    let l : Lexer := ⟨offset, gap ++ quote :: text⟩
    let start := offset + byteSize gap
    ((∃ value span, l.next.1 = .ok ⟨.literal (.string value), span⟩) ↔
      ∃ items rest, StringItem.Cut quote items rest text) ∧
    (∀ items rest, StringItem.Cut quote items rest text →
      let stop := start + byteSize (quote :: (items.flatMap (StringItem.text quote) ++ [quote]))
      l.next = (.ok ⟨.literal (.string (String.ofList (items.flatMap (StringItem.value quote)))),
        ⟨start, stop⟩⟩, ⟨stop, rest⟩)) ∧
    ((¬∃ items rest, StringItem.Cut quote items rest text) →
      ∃ e, e.cause.message = "Unterminated string literal" ∧ e.position = start ∧
        l.next = (.error e, ⟨start + byteSize (quote :: text), []⟩)) := by
  refine ⟨⟨?_, ?_⟩, fun items rest => next_of_cut hquote hgap offset,
    fun h => ⟨_, rfl, rfl, next_of_no_cut hquote hgap offset h⟩⟩
  · rintro ⟨value, span, hstring⟩
    refine Classical.byContradiction fun h => ?_
    rw [next_of_no_cut hquote hgap offset h] at hstring
    cases hstring
  · rintro ⟨items, rest, h⟩
    exact ⟨_, _, congrArg Prod.fst (next_of_cut hquote hgap offset h)⟩

/-- A letter, the quote doubled, the quote and another letter after backslashes, the other quote,
and a line feed. -/
def mixedItems : List StringItem :=
  [.plain 'a', .doubled, .escape '\'', .escape 'q', .plain '"', .escape 'n']

/-- A comment with a quote in it comes before the string, and a comment after it. A backslash before
the last quote leaves a string open. -/
theorem next_string_mixed :
    (⟨1, "/*'*/".toList ++ '\'' :: "a''\\'\\q\"\\n'--'".toList⟩ : Lexer).next =
        (.ok ⟨.literal (.string "a''\\q\"\n"), ⟨6, 18⟩⟩, ⟨18, "--'".toList⟩) ∧
      ¬∃ items rest, StringItem.Cut '\'' items rest "\\'".toList := by
  have hquote : IsQuote '\'' := .inl rfl
  have hgap : Gap false "/*'*/".toList := .block (by decide : ¬['*', '/'] <:+: ['\'']) .nil
  have hcut : StringItem.Cut '\'' mixedItems "--'".toList "a''\\'\\q\"\\n'--'".toList :=
    ⟨by decide, by decide, by decide⟩
  obtain ⟨-, hread, -⟩ := next_string hquote hgap 1 "a''\\'\\q\"\\n'--'".toList
  obtain ⟨hopen, -, -⟩ := next_string hquote .nil 0 "\\'".toList
  refine ⟨hread _ _ hcut, fun h => ?_⟩
  obtain ⟨value, span, hstring⟩ := hopen.mpr h
  have herror : (⟨0, [] ++ '\'' :: "\\'".toList⟩ : Lexer).next.1 = .error ⟨.openString, 0⟩ := by
    with_unfolding_all rfl
  cases herror.symm.trans hstring

end Lexer

end SqlSyntax
