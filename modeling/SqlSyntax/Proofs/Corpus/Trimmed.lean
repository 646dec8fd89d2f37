import SqlSyntax.Proofs.Corpus.Report
import SqlSyntax.Proofs.Surrounded

/-!
# Corpora of one line

A query in a corpus is parsed without the blanks around its line. Where these are spacing, the line
as it stands is parsed to the same statement or has the same error, further on by what was trimmed
before it.
-/
namespace SqlSyntax

/-! ## What is trimmed -/

def blanksBefore (cs : List Char) : List Char := cs.takeWhile isBlank

def blanksAfter (cs : List Char) : List Char := ((trimStart cs).reverse.takeWhile isBlank).reverse

/-- A text is what is trimmed and what is left. -/
theorem blanksBefore_append (cs : List Char) :
    blanksBefore cs ++ (trim cs ++ blanksAfter cs) = cs := by
  have hend : trim cs ++ blanksAfter cs = trimStart cs := by
    rw [trim, trimEnd, blanksAfter, ← List.reverse_append, List.takeWhile_append_dropWhile,
      List.reverse_reverse]
  rw [hend]
  exact List.takeWhile_append_dropWhile

/-! ## One line -/

theorem lines_of_newline_notMem {cs : List Char} (h : '\n' ∉ cs) (hne : cs ≠ []) :
    lines cs = [cs] := by
  induction cs with
  | nil => exact absurd rfl hne
  | cons c cs ih =>
    rw [List.mem_cons, not_or] at h
    have hhead : cs.head? ≠ some '\n' := fun hc => h.2 (List.mem_of_mem_head? hc)
    rw [lines_cons (Ne.symm h.1) fun _ => hhead]
    cases cs with
    | nil => rfl
    | cons d cs => rw [ih h.2 (List.cons_ne_nil d cs), extendFirst_cons]

theorem corpusQueries_of_line {q : String} (hline : '\n' ∉ q.toList) (htrim : trim q.toList ≠ [])
    (hcomment : (trim q.toList).head? ≠ some '#') :
    corpusQueries q = [(1, String.ofList (trim q.toList))] := by
  have hne : q.toList ≠ [] := by
    intro hnil
    rw [hnil] at htrim
    exact htrim rfl
  simp [corpusQueries, lines_of_newline_notMem hline hne, queriesFrom, htrim, hcomment]

theorem upToLimit_singleton {limit : Option Nat} (h : limit ≠ some 0) (query : Nat × String) :
    upToLimit limit [query] = [query] := by
  match limit with
  | none => rfl
  | some 0 => exact absurd rfl h
  | some (count + 1) => simp [upToLimit]

/-- The report on one query is what comes of recording it. -/
theorem ofText_of_query {text : String} {query : Nat × String} (h : corpusQueries text = [query])
    (o : ParserOptions) {limit : Option Nat} (hlimit : limit ≠ some 0) :
    CorpusReport.ofText text o limit = CorpusReport.empty.record o query.1 query.2 := by
  rw [CorpusReport.ofText_eq, h, upToLimit_singleton hlimit, CorpusReport.record_eq]
  simp [CorpusReport.empty]

/-- A line with a query, which may be around it spaces, tabs and carriage returns, but no other
blanks. It makes a report on one query, which is the line without them. If the query parses, so does
the line as it stands, to the same statement; if not, both fail at the same stage and for the same
cause, and the error of the line is that of the query moved on by the bytes before it. -/
theorem ofText_line {q : String} (hline : '\n' ∉ q.toList) (htrim : trim q.toList ≠ [])
    (hcomment : (trim q.toList).head? ≠ some '#')
    (hblanks : ∀ c ∈ blanksBefore q.toList ++ blanksAfter q.toList, c = ' ' ∨ c = '\t' ∨ c = '\r')
    (o : ParserOptions) {limit : Option Nat} (hlimit : limit ≠ some 0) :
    let query := String.ofList (trim q.toList)
    (∃ s, parseSource query o = .ok s ∧ parseSource q o = .ok s ∧
      CorpusReport.ofText q o limit = ⟨1, 1, []⟩) ∨
    ∃ e, parseSource query o = .error e ∧
      parseSource q o = .error
        (e.moved (byteSize (blanksBefore q.toList)) query.utf8ByteSize q.utf8ByteSize) ∧
      CorpusReport.ofText q o limit = ⟨1, 0, [⟨1, query, e.text⟩]⟩ := by
  intro query
  have hspacing : ∀ c ∈ blanksBefore q.toList ++ blanksAfter q.toList, isSpacing c = true := by
    intro c hc
    obtain rfl | rfl | rfl := hblanks c hc <;> decide
  rw [List.forall_mem_append] at hspacing
  have hparse : parseSource (String.ofList (_ ++ (trim q.toList ++ _))) o = _ :=
    parseSource_surrounded hspacing.1 hspacing.2 o
  rw [blanksBefore_append, String.ofList_toList, byteSize_toList] at hparse
  have hsize : byteSize (trim q.toList) = query.utf8ByteSize := by
    rw [← byteSize_toList, String.toList_ofList]
  rw [hsize] at hparse
  rw [ofText_of_query (corpusQueries_of_line hline htrim hcomment) o hlimit, CorpusReport.record]
  cases hquery : parseSource query o with
  | ok s =>
    rw [hquery] at hparse
    exact .inl ⟨s, rfl, hparse, rfl⟩
  | error e =>
    rw [hquery] at hparse
    exact .inr ⟨e, rfl, hparse, rfl⟩

/-- A backslash before what is trimmed leaves a string open with and without it. An expression is
missed at the end of the line as it stands, and at the end of what is left of it. -/
theorem ofText_line_faults :
    parseSource " \t'é\\ \t" ⟨2, true⟩ = .error (.lex ⟨.openString, 2⟩) ∧
      CorpusReport.ofText " \t'é\\ \t" ⟨2, true⟩ none =
        ⟨1, 0, [⟨1, "'é\\", "Lexer error: Unterminated string literal at position 0"⟩]⟩ ∧
      parseSource "  SELECT\r" ⟨2, true⟩ =
        .error (.parse ⟨.unexpectedEnd .expression, .point 9, 1⟩) ∧
      CorpusReport.ofText "  SELECT\r" ⟨2, true⟩ none =
        ⟨1, 0, [⟨1, "SELECT",
          "Parser error: Unexpected end of input: expected expression at position 6..6"⟩]⟩ := by
  have hstring : parseSource (String.ofList (trim " \t'é\\ \t".toList)) ⟨2, true⟩ =
      .error (.lex ⟨.openString, 0⟩) := by
    with_unfolding_all rfl
  have hselect : parseSource (String.ofList (trim "  SELECT\r".toList)) ⟨2, true⟩ =
      .error (.parse ⟨.unexpectedEnd .expression, .point 6, 1⟩) := by
    with_unfolding_all rfl
  have hmixed : blanksBefore " \t'é\\ \t".toList ++ blanksAfter " \t'é\\ \t".toList =
      [' ', '\t', ' ', '\t'] := by decide
  have hreturn : blanksBefore "  SELECT\r".toList ++ blanksAfter "  SELECT\r".toList =
      [' ', ' ', '\r'] := by decide
  have hlimit : (none : Option Nat) ≠ some 0 := nofun
  obtain ⟨s, hs, -⟩ | ⟨e, he, hline, hreport⟩ := ofText_line (q := " \t'é\\ \t") (by decide)
    (by decide) (by decide) (by rw [hmixed]; simp) ⟨2, true⟩ hlimit
  · cases hstring.symm.trans hs
  obtain ⟨s, hs, -⟩ | ⟨e', he', hline', hreport'⟩ := ofText_line (q := "  SELECT\r") (by decide)
    (by decide) (by decide) (by rw [hreturn]; simp) ⟨2, true⟩ hlimit
  · cases hselect.symm.trans hs
  cases hstring.symm.trans he
  cases hselect.symm.trans he'
  have htext : SourceError.text (.lex ⟨.openString, 0⟩) =
      "Lexer error: Unterminated string literal at position 0" := by decide +kernel
  have htext' : SourceError.text (.parse ⟨.unexpectedEnd .expression, .point 6, 1⟩) =
      "Parser error: Unexpected end of input: expected expression at position 6..6" := by
    decide +kernel
  rw [htext] at hreport
  rw [htext'] at hreport'
  exact ⟨hline, hreport, hline', hreport'⟩

end SqlSyntax
