import SqlSyntax.Proofs.Lexing.Spaced
import SqlSyntax.Proofs.Lexing.Tiling

/-!
# Spellings of tokens

A token has spellings: a reserved word in any case, a name in backticks, a sign, a string in either
kind of quotes, an integer with any zeros before it. Spelled tokens with single spaces between them
are read as what they spell, and no source has any other tokens than such and floats.
-/
namespace SqlSyntax

/-! ## Reserved words -/

/-- The word in upper case of a kind that is written as a word. -/
def TokenKind.word? : TokenKind → Option String
  | .keyword k => some k.text
  | .literal .null => some "NULL"
  | .literal (.boolean true) => some "TRUE"
  | .literal (.boolean false) => some "FALSE"
  | _ => none

theorem Keyword.ofWord?_eq_some_iff {word : String} {k : Keyword} :
    ofWord? word = some k ↔ upperAscii word = k.text := by
  refine ⟨upperAscii_of_ofWord?, fun h => ?_⟩
  rw [ofWord?, h]
  cases k <;> rfl

theorem wordKind_of_word? {word : String} {kind : TokenKind}
    (h : kind.word? = some (upperAscii word)) : Scan.wordKind word = kind := by
  -- the literals are no keywords
  have hnone {text : String} (htext : upperAscii word = text)
      (hfind : Keyword.list.find? (fun k => k.text = text) = none) :
      Keyword.ofWord? word = none := by
    rw [Keyword.ofWord?, htext, hfind]
  unfold TokenKind.word? at h
  split at h
  case h_1 => rw [Scan.wordKind, Keyword.ofWord?_eq_some_iff.mpr (Option.some.inj h).symm]
  case h_5 => cases h
  all_goals
    have hword := (Option.some.inj h).symm
    rw [Scan.wordKind, hnone hword rfl]
    simp [hword]

/-- A word is of the kind that it spells in any case, and an identifier if it spells none. -/
theorem wordKind_cases (word : String) :
    (Scan.wordKind word).word? = some (upperAscii word) ∨
      Scan.wordKind word = .identifier word ∧
        ∀ kind : TokenKind, kind.word? ≠ some (upperAscii word) := by
  by_cases hword : ∃ kind : TokenKind, kind.word? = some (upperAscii word)
  · obtain ⟨kind, hkind⟩ := hword
    rw [wordKind_of_word? hkind]
    exact .inl hkind
  · rw [not_exists] at hword
    refine .inr ⟨?_, hword⟩
    unfold Scan.wordKind
    split
    · rename_i k hk
      exact absurd (congrArg some (Keyword.upperAscii_of_ofWord? hk).symm) (hword (.keyword k))
    · rw [if_neg fun h => hword (.literal .null) (congrArg some h.symm),
        if_neg fun h => hword (.literal (.boolean true)) (congrArg some h.symm),
        if_neg fun h => hword (.literal (.boolean false)) (congrArg some h.symm)]

theorem letters_of_word? {kind : TokenKind} {word : String} (h : kind.word? = some word) :
    word ≠ "" ∧ word.toList.all Char.isAlpha = true := by
  unfold TokenKind.word? at h
  split at h <;> cases h
  case h_1 k => cases k <;> exact ⟨by decide, rfl⟩
  all_goals exact ⟨by decide, rfl⟩

/-! ### In any case -/

theorem upperAscii_ofList (text : List Char) :
    upperAscii (String.ofList text) = String.ofList (text.map Char.toUpper) := by
  rw [upperAscii, String.toList_ofList]

/-- A reserved word is one in any case. -/
theorem lexeme_of_word? {kind : TokenKind} {word : String} {text : List Char}
    (h : kind.word? = some word) (htext : text.map Char.toUpper = word.toList) :
    Lexeme text kind Scan.isWordPart := by
  obtain ⟨hne, hletters⟩ := letters_of_word? h
  have hpart : ∀ c ∈ text, isAlphabetic c = true := by
    intro c hc
    have hupper := List.all_eq_true.mp hletters c.toUpper (htext ▸ List.mem_map_of_mem hc)
    exact isAlphabetic_of_isAlpha (isAlpha_of_toUpper hupper)
  have hkind : Scan.wordKind (String.ofList text) = kind := by
    apply wordKind_of_word?
    rw [upperAscii_ofList, htext, String.ofList_toList, h]
  cases text with
  | nil => exact absurd (String.toList_eq_nil_iff.mp htext.symm) hne
  | cons c text =>
    rw [List.forall_mem_cons] at hpart
    rw [← hkind]
    refine .word ?_ fun d hd => ?_
    · simp [Scan.isWordStart, hpart.1]
    · simp [Scan.isWordPart, hpart.2 d hd]

/-- The text of a reserved word spells it. -/
theorem upper_of_lexeme {kind : TokenKind} {word : String} {text : List Char}
    {goesOn : Char → Bool} (h : Lexeme text kind goesOn) (hword : kind.word? = some word) :
    text.map Char.toUpper = word.toList := by
  cases h with
  | @word c cs hc hcs =>
    obtain hsome | ⟨hidentifier, -⟩ := wordKind_cases (String.ofList (c :: cs))
    · rw [upperAscii_ofList, hword] at hsome
      rw [Option.some.inj hsome, String.toList_ofList]
    · rw [hidentifier] at hword
      cases hword
  | quotedIdentifier | integer | float | string => cases hword
  | sign hsign =>
    have hnone : ∀ s ∈ signs, s.2.word? = none := by decide
    rw [hnone _ hsign] at hword
    cases hword

/-! ## Spellings -/

/-- The kinds that have a spelling. -/
def TokenKind.isSpellable : TokenKind → Bool
  | .keyword _ => true
  | .identifier name => name ≠ "" && !name.toList.contains '`'
  | .operator o => o.isComparison || o = .plus || o = .minus || o = .divide
  | .literal (.string _) => true
  | .literal (.integer n) => 0 ≤ n.toInt
  | .literal (.float _) => false
  | .literal (.boolean _) => true
  | .literal .null => true
  | .leftParen | .rightParen | .comma | .semicolon | .star | .dot => true
  | .endOfInput => false

/-- A string between quotes: a backslash is doubled, and the quote is doubled or comes after a
backslash. -/
inductive Quoted (quote : Char) : (text value : List Char) → Prop
  | nil : Quoted quote [] []
  | plain : c ≠ quote → c ≠ '\\' → Quoted quote text value → Quoted quote (c :: text) (c :: value)
  | backslash : Quoted quote text value → Quoted quote ('\\' :: '\\' :: text) ('\\' :: value)
  | doubled : Quoted quote text value → Quoted quote (quote :: quote :: text) (quote :: value)
  | escaped : Quoted quote text value → Quoted quote ('\\' :: quote :: text) (quote :: value)

/-- The text spells the kind. -/
inductive Spelled : List Char → TokenKind → Prop
  | word : kind.word? = some word → text.map Char.toUpper = word.toList → Spelled text kind
  | identifier : name ≠ [] → '`' ∉ name →
      Spelled ('`' :: (name ++ ['`'])) (.identifier (String.ofList name))
  | sign : (text, kind) ∈ signs → Spelled text kind
  | string : IsQuote quote → Quoted quote text value →
      Spelled (quote :: (text ++ [quote])) (.literal (.string (String.ofList value)))
  | integer (zeros : Nat) : n ≤ 0x7FFFFFFFFFFFFFFF →
      Spelled (List.replicate zeros '0' ++ Nat.toDigits 10 n)
        (.literal (.integer (Int64.ofNat n)))

theorem Quoted.stringText {quote : Char} (hquote : IsQuote quote) {text value : List Char}
    (h : Quoted quote text value) : StringText quote text value := by
  induction h with
  | nil => exact .nil
  | plain hc hback _ ih => exact .plain hc hback ih
  | backslash _ ih => exact .escape ih
  | doubled _ ih => exact .doubled ih
  | escaped _ ih =>
    have hescape := StringText.escape (c := quote) ih
    obtain rfl | rfl := hquote
    all_goals exact hescape

theorem exists_quoted (value : List Char) : ∃ text, Quoted '\'' text value := by
  induction value with
  | nil => exact ⟨[], .nil⟩
  | cons c value ih =>
    obtain ⟨text, htext⟩ := ih
    by_cases hquote : c = '\''
    · subst hquote
      exact ⟨_, .doubled htext⟩
    by_cases hback : c = '\\'
    · subst hback
      exact ⟨_, .backslash htext⟩
    · exact ⟨_, .plain hquote hback htext⟩

theorem digitsValue_replicate_zero (zeros n : Nat) :
    digitsValue (List.replicate zeros '0' ++ Nat.toDigits 10 n) = n := by
  rw [digitsValue_eq, Nat.ofDigitChars_append, Nat.ofDigitChars_replicate_zero, Nat.mul_zero,
    Nat.ofDigitChars_ten_toDigits]

theorem lexeme_of_digits {zeros n : Nat} (hn : n ≤ 0x7FFFFFFFFFFFFFFF) :
    Lexeme (List.replicate zeros '0' ++ Nat.toDigits 10 n) (.literal (.integer (Int64.ofNat n)))
      fun d => d.isDigit || d = '.' := by
  have hvalue := digitsValue_replicate_zero zeros n
  have hdigits : ∀ d ∈ List.replicate zeros '0' ++ Nat.toDigits 10 n, d.isDigit = true := by
    intro d hd
    rw [List.mem_append] at hd
    obtain hzero | hdigit := hd
    · rw [List.eq_of_mem_replicate hzero]
      decide
    · exact Nat.isDigit_of_mem_toDigits (by decide) (by decide) hdigit
  cases htext : List.replicate zeros '0' ++ Nat.toDigits 10 n with
  | nil => exact absurd (List.append_eq_nil_iff.mp htext).2 Nat.toDigits_ne_nil
  | cons c cs =>
    rw [htext] at hvalue hdigits
    rw [List.forall_mem_cons] at hdigits
    subst hvalue
    exact .integer hdigits.1 hdigits.2 hn

namespace Spelled

/-- What spells a kind is a text of the kind. -/
theorem isTextOf {text : List Char} {kind : TokenKind} (h : Spelled text kind) :
    IsTextOf text kind := by
  rw [isTextOf_iff]
  cases h with
  | word hword htext => exact ⟨_, lexeme_of_word? hword htext⟩
  | identifier hname htick => exact ⟨_, .quotedIdentifier hname htick⟩
  | sign hsign => exact ⟨_, .sign hsign⟩
  | string hquote htext => exact ⟨_, .string hquote (htext.stringText hquote)⟩
  | integer zeros hn => exact ⟨_, lexeme_of_digits hn⟩

end Spelled

/-! ## Which kinds are spelled -/

theorem isSpellable_of_word? {kind : TokenKind} {word : String} (h : kind.word? = some word) :
    kind.isSpellable = true := by
  unfold TokenKind.word? at h
  split at h <;> cases h <;> rfl

theorem isSpellable_identifier {name : List Char} (hname : name ≠ []) (htick : '`' ∉ name) :
    (TokenKind.identifier (String.ofList name)).isSpellable = true := by
  simp [TokenKind.isSpellable, hname, htick]

theorem isSpellable_integer {n : Nat} (h : n ≤ 0x7FFFFFFFFFFFFFFF) :
    (TokenKind.literal (.integer (Int64.ofNat n))).isSpellable = true := by
  have hn : n < 2 ^ 63 := Nat.lt_succ_of_le h
  simp [TokenKind.isSpellable, Int64.toInt_ofNat_of_lt hn]

theorem isSpellable_of_mem_signs : ∀ s ∈ signs, s.2.isSpellable = true := by decide

theorem isSpellable_of_spelled {text : List Char} {kind : TokenKind} (h : Spelled text kind) :
    kind.isSpellable = true := by
  cases h with
  | word hword => exact isSpellable_of_word? hword
  | identifier hname htick => exact isSpellable_identifier hname htick
  | sign hsign => exact isSpellable_of_mem_signs _ hsign
  | string => rfl
  | integer zeros hn => exact isSpellable_integer hn

/-- A reserved word spells itself. -/
theorem exists_spelled_of_word? {kind : TokenKind} {word : String} (h : kind.word? = some word) :
    ∃ text, Spelled text kind := by
  refine ⟨word.toList, .word h ?_⟩
  unfold TokenKind.word? at h
  split at h <;> cases h
  case h_1 k => cases k <;> rfl
  all_goals rfl

theorem exists_spelled_of_sign {kind : TokenKind} (h : ∃ s ∈ signs, s.2 = kind) :
    ∃ text, Spelled text kind := by
  obtain ⟨s, hmem, rfl⟩ := h
  exact ⟨s.1, .sign hmem⟩

/-- The decimal digits of an integer spell it. -/
theorem spelled_integer {n : Int64} (h : 0 ≤ n.toInt) :
    Spelled (Nat.toDigits 10 n.toNatClampNeg) (.literal (.integer n)) := by
  have hspelled := Spelled.integer 0 (Nat.le_of_lt_succ n.toNatClampNeg_lt)
  rwa [Int64.ofNat_toNatClampNeg n (Int64.le_iff_toInt_le.mpr h)] at hspelled

theorem exists_spelled {kind : TokenKind} (h : kind.isSpellable = true) :
    ∃ text, Spelled text kind := by
  cases kind with
  | keyword => exact exists_spelled_of_word? rfl
  | identifier name =>
    simp only [TokenKind.isSpellable, Bool.and_eq_true, decide_eq_true_eq, Bool.not_eq_true',
      List.contains_eq_mem, decide_eq_false_iff_not] at h
    have hspelled := Spelled.identifier (mt String.toList_eq_nil_iff.mp h.1) h.2
    rw [String.ofList_toList] at hspelled
    exact ⟨_, hspelled⟩
  | operator o =>
    cases o
    case multiply | and | or | like => cases h
    all_goals exact exists_spelled_of_sign (by decide)
  | literal value =>
    cases value with
    | string value =>
      obtain ⟨text, htext⟩ := exists_quoted value.toList
      have hspelled := Spelled.string (.inl rfl) htext
      rw [String.ofList_toList] at hspelled
      exact ⟨_, hspelled⟩
    | integer n => exact ⟨_, spelled_integer (of_decide_eq_true h)⟩
    | float => cases h
    | boolean b => cases b <;> exact exists_spelled_of_word? rfl
    | null => exact exists_spelled_of_word? rfl
  | leftParen | rightParen | comma | semicolon | star | dot =>
    exact exists_spelled_of_sign (by decide)
  | endOfInput => cases h

/-- A token of a source is spellable or a float. -/
theorem isSpellable_of_lexeme {text : List Char} {kind : TokenKind} {goesOn : Char → Bool}
    (h : Lexeme text kind goesOn) :
    kind.isSpellable = true ∨ ∃ x, kind = .literal (.float x) := by
  cases h with
  | @word c cs hc hcs =>
    obtain hword | ⟨hidentifier, -⟩ := wordKind_cases (String.ofList (c :: cs))
    · exact .inl (isSpellable_of_word? hword)
    · rw [hidentifier]
      refine .inl (isSpellable_identifier (List.cons_ne_nil c cs) fun htick => ?_)
      obtain rfl | htick := List.mem_cons.mp htick
      · exact absurd hc (by decide)
      · exact absurd (hcs _ htick) (by decide)
  | quotedIdentifier hname htick => exact .inl (isSpellable_identifier hname htick)
  | integer _ _ hle => exact .inl (isSpellable_integer hle)
  | float => exact .inr ⟨_, rfl⟩
  | string => exact .inl rfl
  | sign hsign => exact .inl (isSpellable_of_mem_signs _ hsign)

/-- The name of an identifier stands in backticks, or is a word that is not reserved. -/
theorem name_of_lexeme {text : List Char} {name : String} {goesOn : Char → Bool}
    (h : Lexeme text (.identifier name) goesOn) :
    text = '`' :: (name.toList ++ ['`']) ∨
      text = name.toList ∧ ∀ kind : TokenKind, kind.word? ≠ some (upperAscii name) := by
  generalize hkind : TokenKind.identifier name = kind at h
  cases h with
  | @word c cs =>
    obtain hword | ⟨hidentifier, hword⟩ := wordKind_cases (String.ofList (c :: cs))
    · rw [← hkind] at hword
      cases hword
    · rw [hidentifier] at hkind
      cases hkind
      exact .inr ⟨String.toList_ofList.symm, hword⟩
  | quotedIdentifier =>
    cases hkind
    exact .inl (by rw [String.toList_ofList])
  | integer | float | string => cases hkind
  | sign hsign =>
    have hnone : ∀ s ∈ signs, ∀ name, s.2 ≠ .identifier name := by simp [signs]
    exact absurd hkind.symm (hnone _ hsign name)

/-! ## Reading what is spelled -/

theorem exists_spelled_iff {kind : TokenKind} :
    (∃ text, Spelled text kind) ↔ kind.isSpellable = true :=
  ⟨fun ⟨_, h⟩ => isSpellable_of_spelled h, exists_spelled⟩

theorem tokenize_of_spelled {words : List (List Char)} {kinds : List TokenKind}
    (h : List.Forall₂ Spelled words kinds) :
    ∃ tokens, tokenize (String.ofList ([' '].intercalate words)) = .ok tokens ∧
      tokens.map Token.kind = kinds ++ [.endOfInput] := by
  rw [tokenize_ofList]
  exact (Spaced.intercalate_space words).tokenize (h.imp fun _ _ => Spelled.isTextOf) 0

/-- The kinds that have a spelling are the spellable ones. Spelled words with single spaces
between them are read as what they spell, and the end marker. Whatever source is read, each
token before the end marker is spellable or a float, and where it is an identifier, the name
stands in backticks in the source or is a word there that in no case is reserved. -/
theorem tokenize_spelled :
    (∀ kind : TokenKind, (∃ text, Spelled text kind) ↔ kind.isSpellable = true) ∧
    (∀ words kinds, List.Forall₂ Spelled words kinds →
      ∃ tokens, tokenize (String.ofList ([' '].intercalate words)) = .ok tokens ∧
        tokens.map Token.kind = kinds ++ [.endOfInput]) ∧
    ∀ source tokens last, tokenize source = .ok (tokens ++ [last]) →
      last.kind = .endOfInput ∧ ∀ t ∈ tokens,
        (t.kind.isSpellable = true ∨ ∃ x, t.kind = .literal (.float x)) ∧
        ∀ name, t.kind = .identifier name →
          ∃ text, t.span.slice? source.toList = some text ∧
            (text = '`' :: (name.toList ++ ['`']) ∨
              text = name.toList ∧ ∀ kind : TokenKind, kind.word? ≠ some (upperAscii name)) := by
  refine ⟨fun _ => exists_spelled_iff, fun _ _ => tokenize_of_spelled, ?_⟩
  intro source tokens last h
  obtain ⟨hlast, htexts⟩ := texts_of_tokenize h
  refine ⟨hlast, fun t ht => ?_⟩
  obtain ⟨text, hslice, htext⟩ := htexts t ht
  obtain ⟨goesOn, hlexeme⟩ := isTextOf_iff.mp htext
  refine ⟨isSpellable_of_lexeme hlexeme, fun name hname => ⟨text, hslice, ?_⟩⟩
  rw [hname] at hlexeme
  exact name_of_lexeme hlexeme

/-- A keyword in mixed case, a name with a space, the second sign of an operator, a string with
its quote doubled and with a backslash at its end, and an integer with zeros before it. -/
def spelling : List (List Char) :=
  [['s', 'E', 'l', 'E', 'c', 'T'], ['`', 'a', ' ', '`'], ['!', '='],
    ['\'', '\'', '\'', '\\', '\\', '\''], ['0', '0', '7']]

def spelledKinds : List TokenKind :=
  [.keyword .select, .identifier "a ", .operator .notEquals, .literal (.string "'\\"),
    .literal (.integer 7)]

theorem tokenize_spelled_mixed :
    List.Forall₂ Spelled spelling spelledKinds ∧
      (∃ tokens, tokenize (String.ofList ([' '].intercalate spelling)) = .ok tokens ∧
        tokens.map Token.kind = spelledKinds ++ [.endOfInput]) ∧
      tokenize "x" = .ok ([⟨.identifier "x", ⟨0, 1⟩⟩] ++ [⟨.endOfInput, .point 1⟩]) ∧
      ∀ kind : TokenKind, kind.word? ≠ some (upperAscii "x") := by
  have hname : Spelled ['`', 'a', ' ', '`'] (.identifier "a ") :=
    .identifier (by decide : ['a', ' '] ≠ []) (by decide)
  have hquoted : Quoted '\'' ['\'', '\'', '\\', '\\'] ['\'', '\\'] := .doubled (.backslash .nil)
  have hseven : 7 ≤ 0x7FFFFFFFFFFFFFFF := by decide
  have hspelled : List.Forall₂ Spelled spelling spelledKinds :=
    .cons (.word rfl rfl) (.cons hname (.cons (.sign (by decide))
      (.cons (.string (.inl rfl) hquoted) (.cons (.integer 2 hseven) .nil))))
  obtain ⟨-, hread, hconverse⟩ := tokenize_spelled
  have htokens := hread spelling spelledKinds hspelled
  have hx : tokenize "x" = .ok ([⟨.identifier "x", ⟨0, 1⟩⟩] ++ [⟨.endOfInput, .point 1⟩]) := by
    with_unfolding_all rfl
  obtain ⟨-, hname⟩ := (hconverse "x" _ _ hx).2 _ List.mem_cons_self
  obtain ⟨text, hslice, hticks | ⟨-, hfree⟩⟩ := hname "x" rfl
  · have hvisible : (⟨0, 1⟩ : Span).slice? "x".toList = some ['x'] := by decide
    obtain rfl := Option.some.inj (hvisible.symm.trans hslice)
    exact absurd hticks (by decide)
  · exact ⟨hspelled, htokens, hx, hfree⟩

end SqlSyntax
