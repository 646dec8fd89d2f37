import SqlSyntax.Corpus
import SqlSyntax.Proofs.Corpus.Lines

/-!
# What a report on a corpus holds

The report is what comes of going through the lines, one after another. It counts the queries of
the corpus up to the limit, each of which parses or is among the failures. The report on two texts
with a line feed between them is the reports on both, one after the other.
-/
namespace SqlSyntax

/-! ## Queries -/

/-- The queries on lines of which the first has the given number: what is left of each line
without the blanks around it, unless that is nothing or begins with `#`. -/
def queriesFrom (number : Nat) (lines : List (List Char)) : List (Nat × String) :=
  ((lines.map trim).zipIdx number).filterMap fun (query, number) =>
    if query = [] ∨ query.head? = some '#' then none else some (number, String.ofList query)

/-- The queries of a corpus with the numbers of their lines, which are counted from one. -/
def corpusQueries (text : String) : List (Nat × String) := queriesFrom 1 (lines text.toList)

/-- The first queries, as many as the limit allows. -/
def upToLimit (limit : Option Nat) (queries : List (Nat × String)) : List (Nat × String) :=
  match limit with
  | none => queries
  | some count => queries.take count

theorem queriesFrom_cons (number : Nat) (line : List Char) (lines : List (List Char)) :
    queriesFrom number (line :: lines) =
      ((queryOf? line).map (number, ·)).toList ++ queriesFrom (number + 1) lines := by
  simp only [queriesFrom, List.map_cons, List.zipIdx_cons, queryOf?, List.isEmpty_iff,
    Bool.or_eq_true, decide_eq_true_eq]
  split <;> rename_i h <;> simp [h]

theorem queriesFrom_append (number : Nat) (ls ms : List (List Char)) :
    queriesFrom number (ls ++ ms) =
      queriesFrom number ls ++ queriesFrom (number + ls.length) ms := by
  simp [queriesFrom, List.zipIdx_append]

/-- Lines count from where they are told to. -/
theorem queriesFrom_add (number n : Nat) (lines : List (List Char)) :
    queriesFrom (number + n) lines = (queriesFrom number lines).map fun q => (q.1 + n, q.2) := by
  induction lines generalizing number with
  | nil => rfl
  | cons line lines ih =>
    rw [queriesFrom_cons, queriesFrom_cons, Nat.add_right_comm, ih, List.map_append]
    cases queryOf? line <;> rfl

theorem le_of_mem_queriesFrom {number : Nat} {lines : List (List Char)} {q : Nat × String}
    (h : q ∈ queriesFrom number lines) : number ≤ q.1 := by
  induction lines generalizing number with
  | nil => cases h
  | cons line lines ih =>
    rw [queriesFrom_cons, List.mem_append] at h
    cases h with
    | inl h =>
      obtain ⟨query, -, rfl⟩ := Option.map_eq_some_iff.mp (Option.mem_toList.mp h)
      exact Nat.le_refl number
    | inr h => exact Nat.le_of_succ_le (ih h)

/-- The numbers of the lines go up. -/
theorem pairwise_queriesFrom (number : Nat) (lines : List (List Char)) :
    (queriesFrom number lines).Pairwise fun q q' => q.1 < q'.1 := by
  induction lines generalizing number with
  | nil => exact .nil
  | cons line lines ih =>
    rw [queriesFrom_cons, List.pairwise_append]
    refine ⟨?_, ih (number + 1), fun q hq q' hq' => ?_⟩
    · cases queryOf? line with
      | none => exact .nil
      | some query => exact List.pairwise_singleton _ _
    · obtain ⟨query, -, rfl⟩ := Option.map_eq_some_iff.mp (Option.mem_toList.mp hq)
      exact le_of_mem_queriesFrom hq'

namespace CorpusReport

variable (options : ParserOptions)

/-- The failure of a query, if it does not parse. The error names the stage that failed, says what
is wrong, and gives the place of it in the query, which for the parser is a span. -/
def failure? (query : Nat × String) : Option CorpusFailure :=
  match parseSource query.2 options with
  | .ok _ => none
  | .error (.lex e) => some ⟨query.1, query.2,
      "Lexer error: " ++ (e.cause.message ++ " at position " ++ toString e.position)⟩
  | .error (.parse e) => some ⟨query.1, query.2,
      "Parser error: " ++ (e.cause.message ++ " at position " ++
        (toString e.span.start ++ ".." ++ toString e.span.stop))⟩

/-! ## One query -/

theorem record_eq (r : CorpusReport) (query : Nat × String) :
    r.record options query.1 query.2 =
      { total := r.total + 1
        passed := r.passed + [query].countP fun q => (failure? options q).isNone
        failures := r.failures ++ [query].filterMap (failure? options) } := by
  unfold record failure?
  cases h : parseSource query.2 options with
  | ok s => simp [h]
  | error e =>
    cases e with
    | lex e => simp [h, SourceError.text, LexError.text]
    | parse e => simp [h, SourceError.text, ParseError.text, Span.text]

/-! ## Many queries -/

/-- Records queries one after another. -/
def recordAll (r : CorpusReport) (queries : List (Nat × String)) : CorpusReport :=
  queries.foldl (fun r query => r.record options query.1 query.2) r

theorem recordAll_eq (r : CorpusReport) (queries : List (Nat × String)) :
    r.recordAll options queries =
      { total := r.total + queries.length
        passed := r.passed + queries.countP fun q => (failure? options q).isNone
        failures := r.failures ++ queries.filterMap (failure? options) } := by
  induction queries generalizing r with
  | nil => simp [recordAll]
  | cons query queries ih =>
    rw [recordAll, List.foldl_cons, ← recordAll, ih, record_eq]
    simp only [← List.singleton_append (x := query) (l := queries), List.length_append,
      List.countP_append, List.filterMap_append, List.append_assoc, Nat.add_assoc]
    rfl

/-! ## Lines -/

/-- Going through lines records the queries on them that the limit still allows. -/
theorem recordLines_eq (limit : Option Nat) (r : CorpusReport) (number : Nat)
    (lines : List (List Char)) :
    r.recordLines options limit number lines =
      r.recordAll options (upToLimit (limit.map (· - r.total)) (queriesFrom number lines)) := by
  induction lines generalizing r number with
  | nil => cases limit <;> simp [recordLines, recordAll, upToLimit, queriesFrom]
  | cons line lines ih =>
    rw [recordLines, queriesFrom_cons]
    cases queryOf? line with
    | none => exact ih r (number + 1)
    | some query =>
      have htotal : (r.record options number query).total = r.total + 1 := by
        rw [record_eq options r (number, query)]
      dsimp only
      split
      · rename_i hfull
        obtain ⟨count, rfl, hcount⟩ := (Option.any_eq_true _ _).mp hfull
        simp [upToLimit, Nat.sub_eq_zero_of_le (of_decide_eq_true hcount), recordAll]
      · rename_i hroom
        rw [ih, htotal]
        cases limit with
        | none => rfl
        | some count =>
          have hlt : r.total < count := by simpa using hroom
          obtain ⟨left, rfl⟩ := Nat.exists_eq_add_of_lt hlt
          have hsub : r.total + left + 1 - (r.total + 1) = left := by omega
          have hsub' : r.total + left + 1 - r.total = left + 1 := by omega
          simp [upToLimit, hsub, hsub', recordAll]

theorem ofText_eq (text : String) (limit : Option Nat) :
    ofText text options limit =
      { total := (upToLimit limit (corpusQueries text)).length
        passed := (upToLimit limit (corpusQueries text)).countP fun q => (failure? options q).isNone
        failures := (upToLimit limit (corpusQueries text)).filterMap (failure? options) } := by
  have hlimit : limit.map (· - empty.total) = limit := by cases limit <;> rfl
  rw [ofText, recordLines_eq, hlimit, recordAll_eq, ← corpusQueries]
  simp [empty]

/-! ## Reports -/

theorem line_of_failure? {options : ParserOptions} {query : Nat × String} {f : CorpusFailure}
    (h : failure? options query = some f) : f.line = query.1 := by
  unfold failure? at h
  split at h
  · cases h
  · cases h
    rfl
  · cases h
    rfl

/-- Each query parses or has a failure. -/
theorem countP_add_length_failures (queries : List (Nat × String)) :
    queries.countP (fun q => (failure? options q).isNone) +
      (queries.filterMap (failure? options)).length = queries.length := by
  induction queries with
  | nil => rfl
  | cons query queries ih =>
    cases h : failure? options query <;> simp [h] <;> omega

theorem upToLimit_isPrefix (limit : Option Nat) (queries : List (Nat × String)) :
    upToLimit limit queries <+: queries := by
  cases limit with
  | none => exact List.prefix_refl queries
  | some count => exact List.take_prefix count queries

theorem pairwise_upToLimit (limit : Option Nat) (text : String) :
    (upToLimit limit (corpusQueries text)).Pairwise fun q q' => q.1 < q'.1 :=
  (pairwise_queriesFrom 1 _).sublist (upToLimit_isPrefix limit _).sublist

/-- The report counts the queries of the corpus up to the limit. Its failures are those of these
queries that do not parse, in the same order, each with the number of its line, which go up, with
its text and its error. The others have passed, so all have if and only if there is no failure.
The failures are the first ones of the report without a limit, and a limit that is no less than
the number of queries makes no difference. -/
theorem ofText_tally (text : String) (limit : Option Nat) :
    (ofText text options limit).total = (upToLimit limit (corpusQueries text)).length ∧
    (ofText text options limit).failures =
      (upToLimit limit (corpusQueries text)).filterMap (failure? options) ∧
    (ofText text options limit).failures.Pairwise (fun f f' => f.line < f'.line) ∧
    (ofText text options limit).passed + (ofText text options limit).failures.length =
      (ofText text options limit).total ∧
    ((ofText text options limit).allPassed = true ↔ (ofText text options limit).failures = []) ∧
    (ofText text options limit).failures <+: (ofText text options none).failures ∧
    ∀ more, ofText text options (some ((corpusQueries text).length + more)) =
      ofText text options none := by
  have hbalance := countP_add_length_failures options (upToLimit limit (corpusQueries text))
  have hall (more : Nat) : upToLimit (some ((corpusQueries text).length + more))
      (corpusQueries text) = upToLimit none (corpusQueries text) :=
    List.take_of_length_le (Nat.le_add_right _ _)
  simp only [ofText_eq, hall, allPassed, decide_eq_true_eq]
  have hprefix := (upToLimit_isPrefix limit (corpusQueries text)).filterMap (failure? options)
  refine ⟨trivial, trivial, ?_, hbalance, ?_, hprefix, fun _ => trivial⟩
  · refine (pairwise_upToLimit limit text).filterMap _ fun q q' hlt f hf f' hf' => ?_
    rwa [line_of_failure? hf, line_of_failure? hf']
  · rw [← List.length_eq_zero_iff]
    omega

example : (ofText "# users\r\nSELECT 1\n\n  SELECT FROM\nSELECT" ⟨2, true⟩ (some 2)).failures =
    [⟨4, "SELECT FROM", SourceError.text
      (.parse ⟨.unexpectedToken .expression (.keyword .from), ⟨7, 11⟩, 1⟩)⟩] := by
  with_unfolding_all rfl

/-! ## Two texts -/

/-- A line feed at the end of a text leaves its queries as they are. -/
theorem queriesFrom_lines_concat (number : Nat) (a : List Char) :
    queriesFrom number (lines (a ++ ['\n'])) = queriesFrom number (lines a) := by
  obtain h | h := map_trim_lines_concat a
  · rw [queriesFrom, h, queriesFrom]
  · rw [queriesFrom, h, queriesFrom, List.zipIdx_append, List.filterMap_append]
    simp

theorem corpusQueries_append (a b : String) :
    corpusQueries (a ++ "\n" ++ b) = corpusQueries a ++
      (corpusQueries b).map fun q => (q.1 + (1 + a.toList.count '\n'), q.2) := by
  have htext : (a ++ "\n" ++ b).toList = a.toList ++ '\n' :: b.toList := by simp
  rw [corpusQueries, htext, lines_append_newline, queriesFrom_append, queriesFrom_lines_concat,
    length_lines_concat, queriesFrom_add]
  rfl

theorem failure?_add (n : Nat) (query : Nat × String) :
    failure? options (query.1 + n, query.2) =
      (failure? options query).map fun f => { f with line := f.line + n } := by
  unfold failure?
  cases parseSource query.2 options with
  | ok s => rfl
  | error e => cases e <;> rfl

/-- Two texts are put together with a line feed between them. Then the report on the whole counts
the queries of both and those of both that parse, and its failures are those of the first text
and then those of the second one, whose lines come after the lines of the first text. -/
theorem ofText_append_newline (a b : String) :
    (ofText (a ++ "\n" ++ b) options none).total =
      (ofText a options none).total + (ofText b options none).total ∧
    (ofText (a ++ "\n" ++ b) options none).passed =
      (ofText a options none).passed + (ofText b options none).passed ∧
    (ofText (a ++ "\n" ++ b) options none).failures =
      (ofText a options none).failures ++ (ofText b options none).failures.map
        fun f => { f with line := f.line + (1 + a.toList.count '\n') } := by
  simp only [ofText_eq, upToLimit, corpusQueries_append, List.length_append, List.length_map,
    List.countP_append, List.countP_map, List.filterMap_append, List.filterMap_map,
    List.map_filterMap, Function.comp_def, failure?_add, Option.isNone_map, and_self]

end CorpusReport

end SqlSyntax
