import SqlSyntax.Proofs.Reading.Query

/-!
# Reading statements

With a list of columns a row may come out too wide before a token is blamed, and then
nothing completes it. So what is read is always a phrase, but an insertion with a list of
columns is left out where completions are spoken of.
-/
namespace SqlSyntax

open Grammar

/-- The input begins with an insertion and its list of columns. -/
def ListsColumns (kinds : List TokenKind) : Prop :=
  ∃ table rest,
    kinds = .keyword .insert :: .keyword .into :: .identifier table :: .leftParen :: rest

namespace Compositional

variable {live : Prop} {R : ∀ {α : Type}, Parser α → Language α → Prop}
  (hR : Compositional live R) {n : Parser.Nested} {g : Inner}
include hR

theorem inParens {p : Parser α} {L : Language α} (hp : R p L) :
    R (Parser.inParens p) fun u a => ∃ v, u = .leftParen :: (v ++ [.rightParen]) ∧ L v a := by
  apply hR.token
  refine hR.bind hp fun v a hv => hR.token ?_
  exact hR.pure ⟨v, by simp, hv⟩

/-! ## Insertions -/

theorem row (hn : n.Related R g) (columns : Nat) (h : live → columns = 0) :
    R (Parser.row n columns)
      fun u es => Row g u es ∧ (columns ≠ 0 → es.length = columns) := by
  refine hR.validate (hR.inParens (hR.commaList hn.expr)) ?_ ?_ ?_
  · rintro _ es ⟨v, rfl, hv⟩ ht
    refine ⟨.mk hv, fun hc => ?_⟩
    simpa [hc] using ht
  · intro es cause ht
    split at ht
    · cases ht
    · cases ht
      rfl
  · intro hl es
    simp [h hl]

/-- An insertion from `VALUES` on. -/
theorem rows (hn : n.Related R g) {u : List TokenKind} (table : String)
    {columns : List String} (hu : Columns u columns) (h : live → columns = []) :
    R (do
      Parser.expect (.keyword .values)
      let rows ← Parser.commaList (Parser.row n columns.length)
      return .insert table columns rows)
      (residual (Phrase g) (.keyword .insert :: .keyword .into :: .identifier table :: u)) := by
  apply hR.token
  refine hR.bind (hR.commaList (hR.row hn columns.length fun hl => by simp [h hl]))
    fun v rows hv => ?_
  obtain ⟨hrows, hwidth⟩ := commaList_and_iff.mp hv
  refine hR.pure ?_
  simpa [residual] using Phrase.insert table hu hrows fun hc r hr =>
    hwidth r hr (by simpa using hc)

theorem columns : R (.after .leftParen
    (do
      let columns ← Parser.commaList Parser.identifier
      Parser.expect .rightParen
      return columns)
    []) Columns := by
  refine hR.after (hR.bind (hR.commaList hR.identifier) fun u names hu => ?_) .absent
  apply hR.token
  exact hR.pure (by simpa [residual] using Columns.present hu)

theorem insert (hn : n.Related R g) (hl : ¬live) : R (Parser.insert n) (Phrase g) := by
  apply hR.token
  refine hR.token ?_
  refine hR.named fun table => ?_
  exact hR.bind hR.columns fun u columns hu => hR.rows hn table hu fun h => absurd h hl

/-! ## Updates and deletions -/

theorem assignment (hn : n.Related R g) : R (Parser.assignment n) (Assign g) := by
  refine hR.named fun column => ?_
  apply hR.token
  refine hR.bind hn.expr fun u e hu => hR.pure ?_
  simpa [residual] using Assign.mk column hu

theorem update (hn : n.Related R g) : R (Parser.update n) (Phrase g) := by
  apply hR.token
  refine hR.named fun table => ?_
  apply hR.token
  refine hR.bind (hR.commaList (hR.assignment hn)) fun u assignments hu => ?_
  refine hR.bind (hR.clause .where hn.expr) fun v condition hv => hR.pure ?_
  simpa [residual] using Phrase.update table hu hv

theorem delete (hn : n.Related R g) : R (Parser.delete n) (Phrase g) := by
  apply hR.token
  refine hR.token ?_
  refine hR.named fun table => ?_
  refine hR.bind (hR.clause .where hn.expr) fun u condition hu => hR.pure ?_
  simpa [residual] using Phrase.delete table hu

/-! ## Tables to create -/

theorem typeArguments : R Parser.typeArguments TypeArguments := by
  refine hR.after (hR.bind hR.integer ?_) .absent
  rintro _ n rfl
  refine hR.bind (L := fun u s => (u = [] ∧ s = "") ∨
    ∃ m : Int64, u = [.comma, .literal (.integer m)] ∧ s = "," ++ toString m.toInt)
    (hR.after (hR.bind hR.integer ?_) (.inl ⟨rfl, rfl⟩)) ?_
  · rintro _ m rfl
    exact hR.pure (.inr ⟨m, rfl, rfl⟩)
  · rintro u s (⟨rfl, rfl⟩ | ⟨m, rfl, rfl⟩)
    · apply hR.token
      exact hR.pure (by simpa [residual] using TypeArguments.one n)
    · apply hR.token
      exact hR.pure (by simpa [residual, String.append_assoc] using TypeArguments.two n m)

theorem word (text : String) (h : upperAscii text = text) : R (Parser.word text)
    fun u _ => ∃ name, u = [.identifier name] ∧ upperAscii name = text := by
  apply hR.choose
  · intro kind p hp
    split at hp
    · obtain ⟨hname, rfl⟩ := Option.ite_some_none_eq_some.mp hp
      exact hR.pure ⟨_, rfl, hname⟩
    · cases hp
  · exact hR.fail fun _ => ⟨_, (), text, rfl, h⟩

/-- The constraints after the first one go on the list that it begins. -/
theorem constraints : R (.many Parser.constraint?) Constraints := by
  refine hR.mono (hR.many (L := fun u text => ∀ v texts, Constraints v texts →
    Constraints (u ++ v) (text :: texts)) ?_) fun u texts h => ?_
  · intro kind p hp
    unfold Parser.constraint? at hp
    split at hp
    · obtain ⟨hname, rfl⟩ := Option.ite_some_none_eq_some.mp hp
      refine hR.bind (hR.word "KEY" (by decide +kernel)) ?_
      rintro _ _ ⟨key, rfl, hkey⟩
      exact hR.pure fun v texts hv => .primaryKey hname hkey hv
    · cases hp
      apply hR.token
      exact hR.pure fun v texts hv => .notNull hv
    · cases hp
  · induction h with
    | nil => exact .done
    | cons hu _ ih => exact hu _ _ ih

theorem columnDef : R Parser.columnDef Column := by
  refine hR.named fun name => ?_
  refine hR.bind (L := Name) (hR.choose ?_ (hR.fail fun _ => ⟨_, _, .mk ""⟩)) ?_
  · intro kind p hp
    split at hp
    · cases hp
      exact hR.pure (.mk _)
    · cases hp
  · rintro _ typeName ⟨⟩
    refine hR.bind hR.typeArguments fun u arguments hu =>
      hR.bind hR.constraints fun v texts hv => hR.pure ?_
    simpa [residual] using Column.mk name typeName hu hv

theorem createTable : R Parser.createTable (Phrase g) := by
  apply hR.token
  refine hR.token ?_
  refine hR.named fun table => ?_
  refine hR.bind (hR.inParens (hR.commaList hR.columnDef)) ?_
  rintro _ columns ⟨u, rfl, hu⟩
  exact hR.pure (by simpa [residual] using Phrase.createTable table hu)

/-! ## Statements -/

theorem select (hn : n.Related R g) : R (do return .select (← n.select)) (Phrase g) :=
  hR.bind hn.select fun _ _ hu => hR.pure (by simpa [residual] using Phrase.select hu)

theorem statementWith (hn : n.Related R g) (hl : ¬live) :
    R (Parser.statementWith n) (Phrase g) := by
  refine hR.peek fun next => ?_
  split
  · exact hR.select hn
  · exact hR.insert hn hl
  · exact hR.update hn
  · exact hR.delete hn
  · exact hR.createTable
  · exact hR.fail fun h => absurd h hl

theorem atEnd (expected : Expectation) : R (Parser.atEnd expected) fun u _ => u = [] := by
  refine hR.peek fun next => ?_
  split
  · exact hR.pure rfl
  · exact hR.pure rfl
  · exact hR.fail fun _ => ⟨[], (), rfl⟩

theorem ending {lax : Bool} {depth : Nat} {u : List TokenKind} {s : Statement}
    (hu : Phrase (upTo lax depth) u s) :
    R (do
      let _ ← Parser.skip .semicolon
      Parser.atEnd .endOfStatement
      return s) (residual (Sole lax depth) u) := by
  refine hR.bind (hR.skip .semicolon) fun v flag hv => hR.bind (hR.atEnd .endOfStatement) ?_
  rintro _ _ rfl
  refine hR.pure ?_
  cases hv with
  | absent => simpa [residual] using Sole.plain hu
  | present => simpa [residual] using Sole.semicolon hu

end Compositional

namespace Reads

variable {live : Prop} {n : Parser.Nested} {g : Inner}

/-! ## Insertions without a list of columns -/

/-- An insertion whose table is not followed by a list of columns. -/
def insertAll (n : Parser.Nested) : Parser Statement := do
  Parser.expect (.keyword .insert)
  Parser.expect (.keyword .into)
  let table ← Parser.identifier
  Parser.expect (.keyword .values)
  let rows ← Parser.commaList (Parser.row n 0)
  return .insert table [] rows

theorem insertAll_reads (hn : n.Reads live g) : Reads live (insertAll n) (Phrase g) := by
  have hR := compositional live
  apply hR.token
  refine hR.token ?_
  refine hR.named fun table => ?_
  exact hR.rows hn table .absent fun _ => rfl

theorem run_insert_eq (n : Parser.Nested) {kinds : List TokenKind} (h : ¬ListsColumns kinds) :
    (Parser.insert n).run kinds = (insertAll n).run kinds := by
  have hR := compositional False
  refine Parser.run_bind_congr fun _ r₁ h₁ => Parser.run_bind_congr fun _ r₂ h₂ =>
    Parser.run_bind_congr fun table r₃ h₃ => ?_
  obtain ⟨_, rfl, rfl⟩ := (hR.expect _).sound h₁
  obtain ⟨_, rfl, rfl⟩ := (hR.expect _).sound h₂
  obtain ⟨_, rfl, ⟨⟩⟩ := hR.identifier.sound h₃
  refine Parser.run_bind_of_ok (Parser.run_after_of_head?_ne _ _ fun hparen => h ?_)
  obtain ⟨rest, rfl⟩ := List.head?_eq_some_iff.mp hparen
  exact ⟨table, rest, rfl⟩

/-! ## Statements -/

theorem statement (o : ParserOptions) (more : Nat) :
    Reads False (Parser.statement o)
      (Phrase (upTo o.allowJoinWithoutOn (o.maxDepth + more))) :=
  (compositional False).statementWith (nested_forget o o.maxDepth more) id

/-- Where a token is blamed what stands before it is the beginning of a statement. -/
theorem statement_viable {o : ParserOptions} {kinds : List TokenKind} {failure : Failure}
    (hr : (Parser.statement o).run kinds = .error failure)
    (hc : failure.cause.isLimit = false) (hcolumns : ¬ListsColumns kinds) :
    ∃ u v s, kinds = u ++ failure.blamed ∧
      Phrase (upTo o.allowJoinWithoutOn (o.maxDepth + 1)) (u ++ v) s := by
  have hR := compositional (0 < 1)
  have hn := nested o o.maxDepth 1
  unfold Parser.statement Parser.statementWith at hr
  rw [Parser.run_peek] at hr
  split at hr
  · exact (hR.select hn).viable Nat.one_pos hr hc
  · rw [run_insert_eq _ hcolumns] at hr
    exact (insertAll_reads hn).viable Nat.one_pos hr hc
  · exact (hR.update hn).viable Nat.one_pos hr hc
  · exact (hR.delete hn).viable Nat.one_pos hr hc
  · exact hR.createTable.viable Nat.one_pos hr hc
  · cases hr
    exact ⟨[], _, _, rfl, .delete "" .absent⟩

/-! ## Statements with their end -/

theorem soleStatement (o : ParserOptions) :
    Reads False (Parser.soleStatement o) (Sole o.allowJoinWithoutOn o.maxDepth) :=
  (statement o 0).bind fun _ _ hu => (compositional False).ending hu

/-- After a statement with its end nothing comes but the end marker. -/
theorem rest_of_soleStatement {o : ParserOptions} {kinds rest : List TokenKind} {s : Statement}
    (h : (Parser.soleStatement o).run kinds = .ok (s, rest)) :
    ∀ kind ∈ rest.head?, kind = .endOfInput := by
  obtain ⟨_, k₁, _, h⟩ := Parser.run_bind_eq_ok_iff.mp h
  obtain ⟨_, k₂, _, h⟩ := Parser.run_bind_eq_ok_iff.mp h
  obtain ⟨_, k₃, hend, h⟩ := Parser.run_bind_eq_ok_iff.mp h
  cases h
  rw [Parser.atEnd, Parser.run_peek] at hend
  split at hend
  · rename_i hnone
    cases hend
    simp [hnone]
  · rename_i hmarker
    cases hend
    simp [hmarker]
  · cases hend

theorem soleStatement_viable {o : ParserOptions} {kinds : List TokenKind} {failure : Failure}
    (hr : (Parser.soleStatement o).run kinds = .error failure)
    (hc : failure.cause.isLimit = false) (hcolumns : ¬ListsColumns kinds) :
    ∃ u v s, kinds = u ++ failure.blamed ∧
      Sole o.allowJoinWithoutOn (o.maxDepth + 1) (u ++ v) s := by
  rw [Parser.soleStatement, Parser.soleStatementWith, ← Parser.statement, Parser.run_bind] at hr
  cases hs : (Parser.statement o).run kinds with
  | error failure' =>
    rw [hs] at hr
    cases hr
    obtain ⟨u, v, s, hu, hv⟩ := statement_viable hs hc hcolumns
    exact ⟨u, v, s, hu, .plain hv⟩
  | ok result =>
    obtain ⟨s, rest⟩ := result
    rw [hs] at hr
    obtain ⟨u, rfl, hu⟩ := (statement o 1).sound hs
    obtain ⟨v, w, s', rfl, hw⟩ := ((compositional _).ending hu).viable Nat.one_pos hr hc
    exact ⟨u ++ v, w, s', by simp, by simpa [residual] using hw⟩

end Reads

end SqlSyntax
