import Mathlib.Data.List.Forall2
import SqlSyntax.Proofs.Depth.Basic
import SqlSyntax.Proofs.Signs.Source

/-!
# The text of a type is read again

A column keeps its type as a text: the type word, the numbers in brackets without zeros before
them, and the constraints in upper case with single spaces between. If the word stands without
backticks in the source, that text is a type again, and the type that it is has the same text.
-/
namespace SqlSyntax

open Grammar

/-! ## What the text shows -/

/-- The name of an identifier that is not in backticks is a word. -/
theorem Lexeme.word_of_identifier {text : List Char} {name : String} {goesOn : Char → Bool}
    (h : Lexeme text (.identifier name) goesOn) :
    (∃ inner, text = '`' :: (inner ++ ['`'])) ∨
      Lexeme name.toList (.identifier name) Scan.isWordPart := by
  generalize hkind : TokenKind.identifier name = kind at h
  cases h with
  | @word c cs hc hcs =>
    obtain hreserved | ⟨hidentifier, -⟩ := wordKind_cases (String.ofList (c :: cs))
    · rw [← hkind] at hreserved
      cases hreserved
    · rw [hidentifier] at hkind
      cases hkind
      rw [String.toList_ofList]
      exact .inr (.word hc hcs)
  | quotedIdentifier => exact .inl ⟨_, rfl⟩
  | integer | float | string => cases hkind
  | sign hsign =>
    have hnone : ∀ s ∈ signs, ∀ name, s.2 ≠ .identifier name := by simp [signs]
    exact absurd hkind.symm (hnone _ hsign name)

theorem Lexeme.word_of_all {c : Char} {cs : List Char} (hc : Scan.isWordStart c = true)
    (hcs : cs.all Scan.isWordPart = true) :
    Lexeme (c :: cs) (Scan.wordKind (String.ofList (c :: cs))) Scan.isWordPart :=
  .word hc (List.all_eq_true.mp hcs)

namespace Shows

variable {kinds : List TokenKind} {kind : TokenKind} {text rest : List Char}
  {goesOn : Char → Bool}

theorem spaced (h : Lexeme text kind goesOn) (hstops : Stops goesOn rest)
    (hrest : Shows kinds rest) : Shows (kind :: kinds) (' ' :: (text ++ rest)) :=
  .token (.spacing (by decide) .nil) h hstops hrest

theorem next (h : Lexeme text kind goesOn) (hstops : Stops goesOn rest) (hrest : Shows kinds rest) :
    Shows (kind :: kinds) (text ++ rest) :=
  .token .nil h hstops hrest

/-- Whatever comes next, nothing goes on from a bracket or a comma. -/
theorem sign {c : Char} (h : ([c], kind) ∈ signs) (hc : signGoesOn [c] = [])
    (hrest : Shows kinds rest) : Shows (kind :: kinds) (c :: rest) := by
  have hstops : Stops (signGoesOn [c]).contains rest := fun d _ => by rw [hc]; rfl
  exact next (.sign h) hstops hrest

/-- The decimal form of a number that is not negative. -/
theorem decimal {n : Int64} (hn : 0 ≤ n.toInt)
    (hstops : Stops (fun d => d.isDigit || d = '.') rest) (hrest : Shows kinds rest) :
    Shows (.literal (.integer n) :: kinds) ((toString n.toInt).toList ++ rest) := by
  have hdigits : Lexeme (List.replicate 0 '0' ++ Nat.toDigits 10 n.toNatClampNeg) _ _ :=
    lexeme_of_digits (Nat.le_of_lt_succ n.toNatClampNeg_lt)
  rw [Int64.ofNat_toNatClampNeg n (Int64.le_iff_toInt_le.mpr hn)] at hdigits
  have htext : (toString n.toInt).toList = Nat.toDigits 10 n.toInt.toNat := by
    have hrepr : toString n.toInt = _ := Int.repr_eq_if
    rw [hrepr, if_pos hn, Nat.toList_repr]
  rw [htext]
  exact next hdigits hstops hrest

/-- The arguments of a type. -/
theorem typeArguments {u : List TokenKind} {arguments : String} (hu : TypeArguments u arguments)
    (hn : ∀ n : Int64, .literal (.integer n) ∈ u → 0 ≤ n.toInt) (hrest : Shows kinds rest) :
    Shows (u ++ kinds) (arguments.toList ++ rest) := by
  have hcomma (tail : List Char) : Stops (fun d => d.isDigit || d = '.') (',' :: tail) := by
    rintro _ ⟨⟩
    decide
  have hparen (tail : List Char) : Stops (fun d => d.isDigit || d = '.') (')' :: tail) := by
    rintro _ ⟨⟩
    decide
  have hlast : Shows (.rightParen :: kinds) (')' :: rest) := sign (by decide) rfl hrest
  cases hu with
  | absent => exact hrest
  | one n =>
    have hfirst := decimal (hn n (by simp)) (hparen rest) hlast
    have hall : Shows (.leftParen :: _) ('(' :: _) := sign (by decide) rfl hfirst
    simpa [String.toList_append] using hall
  | two n m =>
    have hsecond := decimal (hn m (by simp)) (hparen rest) hlast
    have hboth : Shows (.comma :: _) (',' :: _) := sign (by decide) rfl hsecond
    have hfirst := decimal (hn n (by simp)) (hcomma _) hboth
    have hall : Shows (.leftParen :: _) ('(' :: _) := sign (by decide) rfl hfirst
    simpa [String.toList_append] using hall

theorem stops_space (tail : List Char) : Stops Scan.isWordPart (' ' :: tail) := by
  rintro _ ⟨⟩
  decide

theorem stops_constraints {v : List TokenKind} {texts : List String} (hv : Constraints v texts)
    (hstops : Stops Scan.isWordPart rest) :
    Stops Scan.isWordPart (texts.flatMap String.toList ++ rest) := by
  cases hv with
  | done => exact hstops
  | primaryKey | notNull => exact stops_space _

/-- The constraints in upper case. -/
theorem exists_constraints {v : List TokenKind} {texts : List String} (hv : Constraints v texts)
    (hstops : Stops Scan.isWordPart rest) (hrest : Shows kinds rest) :
    ∃ w, Constraints w texts ∧ Shows (w ++ kinds) (texts.flatMap String.toList ++ rest) := by
  induction hv with
  | done => exact ⟨[], .done, hrest⟩
  | @primaryKey _ _ v texts _ _ hv ih =>
    obtain ⟨w, hw, hshows⟩ := ih
    have htext : " PRIMARY KEY".toList = ' ' :: ("PRIMARY".toList ++ ' ' :: "KEY".toList) := by
      decide
    have hprimary : Lexeme "PRIMARY".toList (.identifier "PRIMARY") Scan.isWordPart :=
      .word_of_all (by decide) (by decide)
    have hkey : Lexeme "KEY".toList (.identifier "KEY") Scan.isWordPart :=
      .word_of_all (by decide) (by decide)
    have hlast := spaced hkey (stops_constraints hv hstops) hshows
    refine ⟨.identifier "PRIMARY" :: .identifier "KEY" :: w,
      .primaryKey (by decide +kernel) (by decide +kernel) hw, ?_⟩
    rw [List.flatMap_cons, htext]
    simpa only [List.cons_append, List.append_assoc] using spaced hprimary (stops_space _) hlast
  | @notNull v texts hv ih =>
    obtain ⟨w, hw, hshows⟩ := ih
    have htext : " NOT NULL".toList = ' ' :: ("NOT".toList ++ ' ' :: "NULL".toList) := by decide
    have hnot : Lexeme "NOT".toList (.keyword .not) Scan.isWordPart :=
      lexeme_of_word? rfl (by decide)
    have hnull : Lexeme "NULL".toList (.literal .null) Scan.isWordPart :=
      lexeme_of_word? rfl (by decide)
    have hlast := spaced hnull (stops_constraints hv hstops) hshows
    refine ⟨.keyword .not :: .literal .null :: w, .notNull hw, ?_⟩
    rw [List.flatMap_cons, htext]
    simpa only [List.cons_append, List.append_assoc] using spaced hnot (stops_space _) hlast

/-- The text of a type up to the bracket that closes the table. -/
theorem exists_dataType {typeName arguments : String} {u v : List TokenKind} {texts : List String}
    (hname : Lexeme typeName.toList (.identifier typeName) Scan.isWordPart)
    (hu : TypeArguments u arguments)
    (hn : ∀ n : Int64, .literal (.integer n) ∈ u → 0 ≤ n.toInt) (hv : Constraints v texts) :
    ∃ w, (∀ name, Column (.identifier name :: w)
        ⟨name, typeName ++ arguments ++ String.join texts⟩) ∧
      Shows (w ++ [.rightParen])
        (' ' :: ((typeName ++ arguments ++ String.join texts).toList ++ [')'])) := by
  have hparen : Stops Scan.isWordPart [')'] := by
    rintro _ ⟨⟩
    decide
  have hclose : Shows [.rightParen] [')'] := sign (by decide) rfl (.last .nil)
  obtain ⟨w, hw, hconstraints⟩ := exists_constraints hv hparen hclose
  have harguments := typeArguments hu hn hconstraints
  have hstops : Stops Scan.isWordPart
      (arguments.toList ++ (texts.flatMap String.toList ++ [')'])) := by
    cases hu with
    | absent => exact stops_constraints hv hparen
    | one | two =>
      simp only [String.toList_append, List.append_assoc]
      rintro _ ⟨⟩
      decide
  refine ⟨.identifier typeName :: (u ++ w), fun name => .mk name typeName hu hw, ?_⟩
  simpa [String.toList_append, String.toList_join] using spaced hname hstops harguments

end Shows

/-- A table of one column, with the text of a type as it is kept. -/
theorem parseSource_dataType {typeName arguments : String} {u v : List TokenKind}
    {texts : List String} (hname : Lexeme typeName.toList (.identifier typeName) Scan.isWordPart)
    (hu : TypeArguments u arguments)
    (hn : ∀ n : Int64, .literal (.integer n) ∈ u → 0 ≤ n.toInt) (hv : Constraints v texts)
    (o : ParserOptions) :
    let dataType := typeName ++ arguments ++ String.join texts
    parseSource ("CREATE TABLE t (c " ++ dataType ++ ")") o =
      .ok (.createTable "t" [⟨"c", dataType⟩]) := by
  intro dataType
  obtain ⟨w, hcolumn, hshows⟩ := Shows.exists_dataType hname hu hn hv
  have hcreate : Lexeme "CREATE".toList (.keyword .create) Scan.isWordPart :=
    lexeme_of_word? rfl (by decide)
  have htable : Lexeme "TABLE".toList (.keyword .table) Scan.isWordPart :=
    lexeme_of_word? rfl (by decide)
  have ht : Lexeme ['t'] (.identifier "t") Scan.isWordPart := .word_of_all (by decide) (by decide)
  have hc : Lexeme ['c'] (.identifier "c") Scan.isWordPart := .word_of_all (by decide) (by decide)
  have hopen : Lexeme ['('] .leftParen _ := .sign (by decide)
  have hbody := Shows.spaced hopen (fun _ _ => rfl) (.next hc (Shows.stops_space _) hshows)
  have hall := Shows.next hcreate (Shows.stops_space _)
    (.spaced htable (Shows.stops_space _) (.spaced ht (Shows.stops_space _) hbody))
  have hfront : "CREATE TABLE t (c ".toList = "CREATE".toList ++
      ' ' :: ("TABLE".toList ++ [' ', 't', ' ', '(', 'c', ' ']) := by decide
  refine parseSource_of_shows ?_ (.plain (.createTable "t" (.one (hcolumn "c"))))
  rw [String.toList_append, String.toList_append, hfront]
  simpa [dataType] using hall

/-! ## The words of types in a source -/

/-- The token stands in backticks in the source. -/
def Token.InTicks (source : String) (t : Token) : Prop :=
  ∃ inner, t.span.slice? source.toList = some ('`' :: (inner ++ ['`']))

/-- The words of the types in a statement that makes a table, after `depth` brackets are open. A
definition begins after the outermost left parenthesis, or after a comma with no other parenthesis
open, and the word of its type is the second token of it. -/
def typeWords (depth : Nat) : List Token → List Token
  | [] => []
  | t :: ts =>
    let later := typeWords (t.kind.waiting depth) ts
    if depth = 0 ∧ t.kind = .leftParen ∨ depth = 1 ∧ t.kind = .comma then ts[1]?.toList ++ later
    else later

theorem typeWords_cons {t : Token} (h : t.kind ∉ [.leftParen, .rightParen, .comma]) (depth : Nat)
    (ts : List Token) : typeWords depth (t :: ts) = typeWords depth ts := by
  obtain ⟨hl, hr, hcomma⟩ : t.kind ≠ .leftParen ∧ t.kind ≠ .rightParen ∧ t.kind ≠ .comma := by
    simpa using h
  simp [typeWords, TokenKind.waiting_of_ne hl hr, hl, hcomma]

theorem typeWords_constraints {ts rest : List Token} {texts : List String}
    (h : Constraints (ts.map Token.kind) texts) :
    typeWords 1 (ts ++ rest) = typeWords 1 rest := by
  generalize hkinds : ts.map Token.kind = v at h
  induction h generalizing ts with
  | done =>
    obtain rfl := List.map_eq_nil_iff.mp hkinds
    rfl
  | primaryKey _ _ _ ih | notNull _ ih =>
    obtain ⟨t, ts, rfl, ht, hts⟩ := List.map_eq_cons_iff.mp hkinds
    obtain ⟨t', ts, rfl, ht', hts⟩ := List.map_eq_cons_iff.mp hts
    rw [List.cons_append, List.cons_append, typeWords_cons (by simp [ht]),
      typeWords_cons (by simp [ht']), ih hts]

/-- The brackets of a type and the comma in them begin no definition. -/
theorem typeWords_typeArguments {ts rest : List Token} {arguments : String}
    (h : TypeArguments (ts.map Token.kind) arguments) :
    typeWords 1 (ts ++ rest) = typeWords 1 rest := by
  generalize hkinds : ts.map Token.kind = u at h
  cases h with
  | absent =>
    obtain rfl := List.map_eq_nil_iff.mp hkinds
    rfl
  | one n =>
    simp only [List.map_eq_cons_iff, List.map_eq_nil_iff] at hkinds
    obtain ⟨t₁, _, rfl, h₁, t₂, _, rfl, h₂, t₃, _, rfl, h₃, rfl⟩ := hkinds
    simp [typeWords, TokenKind.waiting, h₁, h₂, h₃]
  | two n m =>
    simp only [List.map_eq_cons_iff, List.map_eq_nil_iff] at hkinds
    obtain ⟨t₁, _, rfl, h₁, t₂, _, rfl, h₂, t₃, _, rfl, h₃, t₄, _, rfl, h₄, t₅, _, rfl, h₅, rfl⟩ :=
      hkinds
    simp [typeWords, TokenKind.waiting, h₁, h₂, h₃, h₄, h₅]

/-- The column is read from some of the tokens, and the word is the second one of these. -/
def IsTypeWord (tokens : List Token) (word : Token) (c : ColumnDef) : Prop :=
  ∃ u, u ⊆ tokens ∧ u[1]? = some word ∧ Column (u.map Token.kind) c

theorem IsTypeWord.mono {ts us : List Token} {word : Token} {c : ColumnDef}
    (h : IsTypeWord ts word c) (hsub : ts ⊆ us) : IsTypeWord us word c := by
  obtain ⟨u, hu, hword, hc⟩ := h
  exact ⟨u, List.Subset.trans hu hsub, hword, hc⟩

theorem getElem?_append_of_eq_some {α : Type} {xs : List α} {i : Nat} {x : α}
    (h : xs[i]? = some x) (ys : List α) : (xs ++ ys)[i]? = some x := by
  rw [List.getElem?_append_left (List.getElem?_eq_some_iff.mp h).1, h]

/-- A definition has a second token, and no other definition begins in it. -/
theorem exists_typeWord {ts : List Token} {c : ColumnDef} (h : Column (ts.map Token.kind) c) :
    ∃ word, ts[1]? = some word ∧ ∀ rest, typeWords 1 (ts ++ rest) = typeWords 1 rest := by
  generalize hkinds : ts.map Token.kind = u at h
  obtain ⟨name, typeName, hu, hv⟩ := h
  obtain ⟨t, _, rfl, ht, htail⟩ := List.map_eq_cons_iff.mp hkinds
  obtain ⟨word, _, rfl, hword, htail⟩ := List.map_eq_cons_iff.mp htail
  obtain ⟨xs, ys, rfl, rfl, rfl⟩ := List.map_eq_append_iff.mp htail
  refine ⟨word, rfl, fun rest => ?_⟩
  rw [List.cons_append, List.cons_append, typeWords_cons (by simp [ht]),
    typeWords_cons (by simp [hword]), List.append_assoc, typeWords_typeArguments hu,
    typeWords_constraints hv]

/-- Of definitions with commas between, the words of all but the first are told from the commas. -/
theorem exists_typeWords {ts : List Token} {columns : List ColumnDef}
    (h : CommaList Column (ts.map Token.kind) columns) :
    ∃ word words, ts[1]? = some word ∧ List.Forall₂ (IsTypeWord ts) (word :: words) columns ∧
      ∀ rest, typeWords 1 (ts ++ rest) = words ++ typeWords 1 rest := by
  generalize hkinds : ts.map Token.kind = u at h
  induction h generalizing ts with
  | one hc =>
    subst hkinds
    obtain ⟨word, hword, hrest⟩ := exists_typeWord hc
    exact ⟨word, [], hword, .cons ⟨ts, List.Subset.refl ts, hword, hc⟩ .nil, hrest⟩
  | cons hc _ ih =>
    obtain ⟨us, vs, rfl, rfl, hvs⟩ := List.map_eq_append_iff.mp hkinds
    obtain ⟨comma, vs, rfl, hcomma, hvs⟩ := List.map_eq_cons_iff.mp hvs
    obtain ⟨word, hword, hrest⟩ := exists_typeWord hc
    obtain ⟨word', words, hword', hwords, hrest'⟩ := ih hvs
    have hlater : vs ⊆ us ++ comma :: vs := fun t ht => by simp [ht]
    refine ⟨word, word' :: words, getElem?_append_of_eq_some hword _, ?_, fun rest => ?_⟩
    · exact .cons ⟨us, by simp, hword, hc⟩ (hwords.imp fun _ _ hcolumn => hcolumn.mono hlater)
    · have hfirst := getElem?_append_of_eq_some hword' rest
      rw [List.append_assoc, hrest, List.cons_append, typeWords]
      simp [hcomma, hfirst, TokenKind.waiting, hrest']

/-- The words that are told from brackets and commas are those of the columns, in order. -/
theorem typeWords_of_sole {lax : Bool} {depth : Nat} {table : String} {columns : List ColumnDef}
    {front : List Token} {last : Token} (hlast : last.kind = .endOfInput)
    (h : Sole lax depth (front.map Token.kind) (.createTable table columns)) :
    List.Forall₂ (IsTypeWord front) (typeWords 0 (front ++ [last])) columns := by
  have hsole : ∃ u v, front.map Token.kind = .keyword .create :: .keyword .table ::
      .identifier table :: .leftParen :: (u ++ .rightParen :: v) ∧ CommaList Column u columns ∧
        (v = [] ∨ v = [.semicolon]) := by
    generalize front.map Token.kind = kinds at h
    cases h with
    | plain h =>
      cases h with
      | createTable _ hu => exact ⟨_, [], rfl, hu, .inl rfl⟩
    | semicolon h =>
      cases h with
      | createTable _ hu => exact ⟨_, [.semicolon], by simp, hu, .inr rfl⟩
  obtain ⟨u, v, hkinds, hu, hv⟩ := hsole
  obtain ⟨t₁, _, rfl, h₁, hkinds⟩ := List.map_eq_cons_iff.mp hkinds
  obtain ⟨t₂, _, rfl, h₂, hkinds⟩ := List.map_eq_cons_iff.mp hkinds
  obtain ⟨t₃, _, rfl, h₃, hkinds⟩ := List.map_eq_cons_iff.mp hkinds
  obtain ⟨t₄, _, rfl, h₄, hkinds⟩ := List.map_eq_cons_iff.mp hkinds
  obtain ⟨ts, _, rfl, rfl, htail⟩ := List.map_eq_append_iff.mp hkinds
  obtain ⟨t₅, vs, rfl, h₅, hvs⟩ := List.map_eq_cons_iff.mp htail
  obtain ⟨word, words, hword, hwords, hrest⟩ := exists_typeWords hu
  have hnone : typeWords 0 (vs ++ [last]) = [] := by
    obtain rfl | rfl := hv
    · obtain rfl := List.map_eq_nil_iff.mp hvs
      simp [typeWords, hlast]
    · obtain ⟨t₆, _, rfl, h₆, hvs⟩ := List.map_eq_cons_iff.mp hvs
      obtain rfl := List.map_eq_nil_iff.mp hvs
      simp [typeWords, TokenKind.waiting, hlast, h₆]
  have hfirst := getElem?_append_of_eq_some hword (t₅ :: (vs ++ [last]))
  have hall : typeWords 0 (t₁ :: t₂ :: t₃ :: t₄ :: (ts ++ t₅ :: vs) ++ [last]) = word :: words := by
    simp only [List.cons_append, List.append_assoc]
    simp [typeWords, TokenKind.waiting, h₁, h₂, h₃, h₄, h₅, hfirst, hrest, hnone]
  rw [hall]
  exact hwords.imp fun _ _ hcolumn => hcolumn.mono fun t ht => by simp [ht]

/-- No integer of a source is negative. -/
theorem nonneg_of_isTextOf {text : List Char} {n : Int64}
    (h : IsTextOf text (.literal (.integer n))) : 0 ≤ n.toInt := by
  obtain ⟨goesOn, hlexeme⟩ := isTextOf_iff.mp h
  obtain hspellable | ⟨x, hfloat⟩ := isSpellable_of_lexeme hlexeme
  · exact of_decide_eq_true hspellable
  · cases hfloat

/-- A source is parsed to a statement that makes a table. Then its tokens have one word of a type
for each column, which is an identifier that the type begins with; and if the word does not stand in
backticks there, a table of one column with the text of the type is parsed to a column with the same
text. -/
theorem dataType_parses_again {source : String} {o : ParserOptions} {table : String}
    {columns : List ColumnDef} (h : parseSource source o = .ok (.createTable table columns)) :
    ∃ tokens, tokenize source = .ok tokens ∧
      List.Forall₂
        (fun word c => (∃ name more, word.kind = .identifier name ∧ c.dataType = name ++ more) ∧
          (¬word.InTicks source → ∀ o',
            parseSource ("CREATE TABLE t (c " ++ c.dataType ++ ")") o' =
              .ok (.createTable "t" [⟨"c", c.dataType⟩])))
        (typeWords 0 tokens) columns := by
  obtain ⟨tokens, htokens, hparse⟩ := exists_tokens_of_parseSource h
  refine ⟨tokens, htokens, ?_⟩
  have hsole := parseTokens_eq_ok_iff_sole.mp hparse
  obtain ⟨front, rfl, htexts⟩ := (Lexer.tiling htokens).exists_front [] rfl
  have hclean : .endOfInput ∉ front.map Token.kind := by
    intro hmem
    obtain ⟨t, ht, hkind⟩ := List.mem_map.mp hmem
    obtain ⟨-, _, -, htext⟩ := htexts t ht
    exact htext.ne_endOfInput hkind
  rw [content_of_map_kind (v := []) (List.map_append ..) hclean] at hsole
  refine (typeWords_of_sole rfl hsole).imp fun word c hcolumn => ?_
  obtain ⟨u, hu, hword, hc⟩ := hcolumn
  have hmem : word ∈ front := hu (List.mem_of_getElem? hword)
  obtain ⟨-, text, hslice, htext⟩ := htexts word hmem
  obtain ⟨goesOn, hlexeme⟩ := isTextOf_iff.mp htext
  generalize hkinds : u.map Token.kind = kinds at hc
  obtain ⟨name, typeName, harguments, hconstraints⟩ := hc
  obtain ⟨first, _, rfl, -, htail⟩ := List.map_eq_cons_iff.mp hkinds
  obtain ⟨_, more, rfl, hkind, hmore⟩ := List.map_eq_cons_iff.mp htail
  obtain rfl := Option.some.inj hword
  refine ⟨⟨typeName, _, hkind, String.append_assoc ..⟩, fun hticks o' => ?_⟩
  rw [hkind] at hlexeme
  obtain ⟨inner, rfl⟩ | hname := hlexeme.word_of_identifier
  · exact absurd ⟨inner, hslice⟩ hticks
  · refine parseSource_dataType hname harguments (fun n hn => ?_) hconstraints o'
    have hmore' : .literal (.integer n) ∈ more.map Token.kind := by simp [hmore, hn]
    obtain ⟨t, ht, htkind⟩ := List.mem_map.mp hmore'
    obtain ⟨-, _, -, hdigits⟩ := htexts t (hu (by simp [ht]))
    exact nonneg_of_isTextOf (htkind ▸ hdigits)

/-- A type in backticks, and a type with zeros before its numbers and constraints in mixed case. -/
def mixedTypes : String := "create table T (a `x y`, é Größe (007 , 10) not NULL primary Key)"

theorem dataType_parses_again_mixedTypes :
    parseSource mixedTypes {} = .ok (.createTable "T"
        [⟨"a", "x y"⟩, ⟨"é", "Größe(7,10) NOT NULL PRIMARY KEY"⟩]) ∧
      parseSource ("CREATE TABLE t (c " ++ "Größe(7,10) NOT NULL PRIMARY KEY" ++ ")") {} =
        .ok (.createTable "t" [⟨"c", "Größe(7,10) NOT NULL PRIMARY KEY"⟩]) := by
  have hparse : parseSource mixedTypes {} = .ok (.createTable "T"
      [⟨"a", "x y"⟩, ⟨"é", "Größe(7,10) NOT NULL PRIMARY KEY"⟩]) := by
    with_unfolding_all rfl
  obtain ⟨tokens, htokens, hcolumns⟩ := dataType_parses_again hparse
  have hwords : ∃ ts, tokenize mixedTypes = .ok ts ∧ typeWords 0 ts =
      [⟨.identifier "x y", ⟨18, 23⟩⟩, ⟨.identifier "Größe", ⟨28, 35⟩⟩] :=
    ⟨_, by with_unfolding_all rfl, by with_unfolding_all rfl⟩
  obtain ⟨ts, hts, hwords⟩ := hwords
  cases htokens.symm.trans hts
  rw [hwords] at hcolumns
  obtain ⟨-, hagain⟩ := (List.forall₂_cons.mp (List.forall₂_cons.mp hcolumns).2).1
  refine ⟨hparse, hagain ?_ {}⟩
  rintro ⟨inner, hslice⟩
  have hvisible : (⟨28, 35⟩ : Span).slice? mixedTypes.toList = some "Größe".toList := by decide
  cases hvisible.symm.trans hslice

end SqlSyntax
