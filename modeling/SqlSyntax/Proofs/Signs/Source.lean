import SqlSyntax.Proofs.Acceptance
import SqlSyntax.Proofs.Layout
import SqlSyntax.Proofs.Signs.Phrase
import SqlSyntax.Proofs.Signs.Run

/-!
# Signs in a source

The decimal form of an integer is read as the integer, though its sign is a token of its own. The
least integer cannot be written: its digits are too large for a number without the sign. So it is in
no statement that a source is parsed to, and all signs before numbers are folded there.
-/
namespace SqlSyntax

open SqlSyntax.Parser Grammar

/-! ## From decimal forms -/

/-- A source is parsed to what the kinds that it shows are a phrase for. -/
theorem parseSource_of_shows {source : String} {kinds : List TokenKind} {s : Statement}
    {o : ParserOptions} (h : Shows kinds source.toList)
    (hs : Sole o.allowJoinWithoutOn o.maxDepth kinds s) : parseSource source o = .ok s := by
  obtain ⟨tokens, htokens, hkinds⟩ := h.tokenize 0
  have hcontent : content tokens = kinds := content_of_map_kind hkinds h.endOfInput_notMem
  have hparse : parseTokens tokens o = .ok s :=
    parseTokens_eq_ok_iff_sole.mpr (hcontent ▸ hs)
  have hsource : tokenize source = .ok tokens := htokens
  rw [parseSource_of_tokenize hsource, hparse]
  rfl

/-- The digits of a number that is not negative show its token. -/
theorem shows_of_nonneg {n : Int64} (hn : 0 ≤ n.toInt) {gap : List Char} (hgap : Gap false gap) :
    Shows [.literal (.integer n)] (gap ++ Nat.toDigits 10 n.toInt.toNat) := by
  obtain ⟨goesOn, hdigits⟩ := isTextOf_iff.mp (spelled_integer hn).isTextOf
  have hshows := Shows.token hgap hdigits (hdigits.stops_of_breaks breaks_nil) (.last .nil)
  rw [List.append_nil] at hshows
  exact hshows

/-- The minus of a negative number is a sign before its opposite. -/
theorem shows_of_neg {n : Int64} (hn : n ≠ Int64.minValue) (hneg : n.toInt < 0)
    {gap : List Char} (hgap : Gap false gap) :
    Shows [.operator .minus, .literal (.integer (-n))]
      (gap ++ '-' :: Nat.toDigits 10 (-n.toInt).toNat) := by
  have hopposite := toInt_neg_of_ne_minValue hn
  have hdigits := shows_of_nonneg (n := -n) (by omega) .nil
  rw [hopposite, List.nil_append] at hdigits
  have hminus : Lexeme ['-'] (.operator .minus) _ := .sign (by decide)
  refine .token hgap hminus (fun d hd => ?_) hdigits
  have hdigit := Nat.isDigit_of_mem_toDigits (by decide) (by decide) (List.mem_of_mem_head? hd)
  rw [List.contains_eq_mem, decide_eq_false_iff_not]
  intro hmem
  obtain rfl := List.mem_singleton.mp hmem
  exact absurd hdigit (by decide)

/-- The decimal form of an integer shows a sign, if it is negative, and digits; with the sign folded
they are the integer. -/
theorem exists_shows_toString {n : Int64} (hn : n ≠ Int64.minValue) {gap : List Char}
    (hgap : Gap false gap) :
    ∃ u, Shows u (gap ++ (toString n.toInt).toList) ∧ u.head? ≠ some .star ∧
      ∀ g, Disjunction g u (.integer n) := by
  have htext : (toString n.toInt).toList =
      if 0 ≤ n.toInt then Nat.toDigits 10 n.toInt.toNat
      else '-' :: Nat.toDigits 10 (-n.toInt).toNat := by
    have hrepr : toString n.toInt = _ := Int.repr_eq_if
    rw [hrepr, apply_ite String.toList, Nat.toList_repr, String.toList_append, Nat.toList_repr]
    rfl
  rw [htext]
  split
  · rename_i hnonneg
    exact ⟨_, shows_of_nonneg hnonneg hgap, by simp,
      fun g => layer_of_primary 0 (.literal _)⟩
  · rename_i hneg
    refine ⟨_, shows_of_neg hn (Int.not_le.mp hneg) hgap, by simp, fun g => ?_⟩
    have hdigits : Primary g [.literal (.integer (-n))] (.integer (-n)) := .literal _
    have hsigned := Signed.minus hdigits
    rw [Expr.opposite_integer (neg_ne_minValue hn), Int64.neg_neg] at hsigned
    exact layer_of_le (n := 0) (m := 6) (.single hsigned) (Nat.zero_le 6)

/-- The query of one expression and nothing else. -/
def Select.ofExpr (e : Expr) : Select where
  distinct := false
  columns := [.projected e none]
  source := none
  condition := none
  groupBy := []
  having := none
  orderBy := []
  limit := none
  offset := none

theorem query_of_expr {lax : Bool} {g : Inner} {u : List TokenKind} {e : Expr} (hu : g.expr u e)
    (hstar : u.head? ≠ some .star) : Query lax g (.keyword .select :: u) (.ofExpr e) := by
  have h : Query lax g _ _ := .mk .absent (.one (.expr hu hstar .absent)) .absent .absent .absent
    .absent .absent .absent .absent
  simp only [List.append_nil] at h
  exact h

theorem parseSource_select_toString {n : Int64} (hn : n ≠ Int64.minValue) {o : ParserOptions}
    (ho : 2 ≤ o.maxDepth) :
    parseSource ("SELECT " ++ toString n.toInt) o = .ok (.select (.ofExpr (.integer n))) := by
  have hgap : Gap false [' '] := .spacing (by decide) .nil
  obtain ⟨u, hshows, hstar, hexpr⟩ := exists_shows_toString hn hgap
  have hselect : Lexeme "SELECT".toList (.keyword .select) Scan.isWordPart :=
    lexeme_of_word? rfl (by decide)
  have hsource : Shows (.keyword .select :: u) ("SELECT " ++ toString n.toInt).toList := by
    rw [String.toList_append]
    exact .token .nil hselect (hselect.stops_of_breaks (breaks_cons (by decide) _)) hshows
  obtain ⟨more, hmore⟩ := Nat.exists_eq_add_of_le' ho
  refine parseSource_of_shows hsource ?_
  rw [hmore]
  exact .plain (.select (query_of_expr (hexpr _) hstar))

/-! ## What no source has -/

/-- The least integer is no token of a source. -/
theorem opposable_of_tokenize {source : String} {tokens : List Token}
    (h : tokenize source = .ok tokens) : Opposable (content tokens) := by
  obtain ⟨front, rfl, htexts⟩ := (Lexer.tiling h).exists_front [] rfl
  intro hmem
  obtain ⟨t, ht, hkind⟩ := List.mem_map.mp hmem
  obtain ht | ht := List.mem_append.mp ((List.takeWhile_prefix _).mem ht)
  · obtain ⟨-, _, -, htext⟩ := htexts t ht
    obtain ⟨goesOn, hlexeme⟩ := isTextOf_iff.mp htext
    rw [hkind] at hlexeme
    obtain hspellable | ⟨x, hfloat⟩ := isSpellable_of_lexeme hlexeme
    · exact absurd hspellable (by decide)
    · cases hfloat
  · rw [List.mem_singleton.mp ht] at hkind
    cases hkind

theorem exists_tokens_of_parseSource {source : String} {o : ParserOptions} {s : Statement}
    (h : parseSource source o = .ok s) :
    ∃ tokens, tokenize source = .ok tokens ∧ parseTokens tokens o = .ok s := by
  unfold parseSource at h
  split at h
  · cases h
  · rename_i tokens htokens
    split at h
    · cases h
    · rename_i hparse
      cases h
      exact ⟨tokens, htokens, hparse⟩

theorem folded_of_parseSource {source : String} {o : ParserOptions} {s : Statement}
    (h : parseSource source o = .ok s) : s.Folded := by
  obtain ⟨tokens, htokens, hparse⟩ := exists_tokens_of_parseSource h
  have hsole := parseTokens_eq_ok_iff_sole.mp hparse
  exact Folds.sole hsole (opposable_of_tokenize htokens)

/-- In a folded statement no minus sign stands before a number, not even before the least one. -/
theorem Statement.Folded.ne_of_has {s : Statement} (h : s.Folded) {e : Expr} (he : s.Has e) :
    e ≠ .integer Int64.minValue ∧ (∀ n, e ≠ .negate (.integer n)) ∧
      ∀ x, e ≠ .negate (.float x) := by
  obtain ⟨f, hf, hwithin⟩ := he
  have hfolded := (h f hf).of_within hwithin
  refine ⟨?_, ?_, ?_⟩
  · rintro rfl
    exact hfolded.isFolded rfl
  · rintro n rfl
    have hinner := hfolded.of_within (.operand (List.mem_singleton_self _) .self)
    exact hinner.isFolded hfolded.isFolded
  · rintro x rfl
    exact hfolded.isFolded

/-! ## Signs fold -/

end SqlSyntax
