import SqlSyntax.Token.Trivia

/-!
# What stands between tokens

A gap is made of spacing and of comments that are complete: a line comment up to the line feed
and with it, a block comment up to the first `*/` after its opening. Only a line comment after
the last token may lack its line feed. What is split off a text is a gap, and a gap before any
text is split off whole.
-/
namespace SqlSyntax

/-! ## Up to a character -/

theorem notMem_takeWhile_ne (c : Char) (cs : List Char) : c ∉ cs.takeWhile (· ≠ c) := fun h => by
  simpa using List.all_eq_true.mp List.all_takeWhile c h

theorem eq_false_of_mem_head?_dropWhile (p : Char → Bool) (cs : List Char) :
    ∀ d ∈ (cs.dropWhile p).head?, p d = false := by
  intro d hd
  have hstop := List.head?_dropWhile_not p cs
  rw [Option.mem_def.mp hd] at hstop
  exact hstop

theorem eq_of_mem_head?_dropWhile_ne {c : Char} (cs : List Char) :
    ∀ d ∈ (cs.dropWhile (· ≠ c)).head?, d = c := fun d hd => by
  simpa using eq_false_of_mem_head?_dropWhile (· ≠ c) cs d hd

/-- A run of characters of a class ends where the class does. -/
theorem takeWhile_dropWhile_append {p : Char → Bool} {u v : List Char}
    (hu : ∀ c ∈ u, p c = true) (hv : ∀ c ∈ v.head?, p c = false) :
    (u ++ v).takeWhile p = u ∧ (u ++ v).dropWhile p = v := by
  rw [List.takeWhile_append_of_pos hu, List.dropWhile_append_of_pos hu]
  cases v with
  | nil => simp
  | cons c v => simp [hv c rfl]

/-! ## Gaps -/

/-- A text between two tokens, or after the last one. -/
inductive Gap : (last : Bool) → List Char → Prop
  | nil : Gap last []
  | spacing : isSpacing c = true → Gap last u → Gap last (c :: u)
  | line : '\n' ∉ body → Gap last u → Gap last ('-' :: '-' :: (body ++ '\n' :: u))
  | block : ¬['*', '/'] <:+: body → Gap last u →
      Gap last ('/' :: '*' :: (body ++ '*' :: '/' :: u))
  | lastLine : '\n' ∉ body → Gap true ('-' :: '-' :: body)

/-- A line feed at the front is spacing, as no comment begins with it. -/
theorem Gap.of_newline {last : Bool} {u : List Char} (h : Gap last ('\n' :: u)) : Gap last u := by
  cases h with
  | spacing _ hu => exact hu

theorem Gap.mono {u : List Char} (h : Gap false u) (last : Bool) : Gap last u := by
  generalize hfalse : false = first at h
  induction h with
  | nil => exact .nil
  | spacing hc _ ih => exact .spacing hc (ih hfalse)
  | line hbody _ ih => exact .line hbody (ih hfalse)
  | block hbody _ ih => exact .block hbody (ih hfalse)
  | lastLine => cases hfalse

/-- A line feed ends a line comment that lacks one, and is spacing otherwise. -/
theorem Gap.append_newline {last : Bool} {u : List Char} (h : Gap last u) :
    Gap false (u ++ ['\n']) := by
  induction h with
  | nil => exact .spacing (by decide) .nil
  | spacing hc _ ih => exact .spacing hc ih
  | line hbody _ ih =>
    simp only [List.cons_append, List.append_assoc]
    exact .line hbody ih
  | block hbody _ ih =>
    simp only [List.cons_append, List.append_assoc]
    exact .block hbody ih
  | lastLine hbody => exact .line hbody .nil

/-! ### What is split off -/

/-- What is split off is a comment up to its first end. -/
theorem body_of_splitBlockEnd? {cs a b : List Char} (h : splitBlockEnd? cs = some (a, b)) :
    ∃ body, a = body ++ ['*', '/'] ∧ ¬['*', '/'] <:+: body := by
  fun_induction splitBlockEnd? cs generalizing a b with
  | case1 => cases h
  | case2 cs =>
    cases h
    exact ⟨[], rfl, by simp⟩
  | case3 c cs hends ih =>
    obtain ⟨⟨a, b⟩, hs, he⟩ := Option.map_eq_some_iff.mp h
    cases he
    obtain ⟨body, rfl, hbody⟩ := ih hs
    refine ⟨c :: body, rfl, ?_⟩
    rw [List.infix_cons_iff, not_or]
    refine ⟨?_, hbody⟩
    -- no end begins with this character either, as it would have been split off there
    rintro ⟨v, hv⟩
    obtain ⟨rfl, rfl⟩ := List.cons.inj hv
    have hcs := append_of_splitBlockEnd? hs
    exact hends _ rfl hcs.symm

/-- A line comment takes up the line feed that the gap after it begins with. -/
theorem gap_line {body after : List Char} (hbody : '\n' ∉ body)
    (hafter : ∀ c ∈ after.head?, c = '\n')
    (h : Gap (splitTrivia after).2.isEmpty (splitTrivia after).1) :
    Gap (splitTrivia after).2.isEmpty ('-' :: '-' :: (body ++ (splitTrivia after).1)) := by
  cases after with
  | nil =>
    rw [splitTrivia, List.append_nil]
    exact .lastLine hbody
  | cons c after =>
    obtain rfl : c = '\n' := hafter c rfl
    rw [splitTrivia, if_pos (by decide)] at h ⊢
    exact .line hbody h.of_newline

theorem gap_splitTrivia (cs : List Char) :
    Gap (splitTrivia cs).2.isEmpty (splitTrivia cs).1 := by
  fun_induction splitTrivia cs with
  | case1 => exact .nil
  | case2 c cs hc gap rest h ih =>
    rw [h] at ih
    exact .spacing hc ih
  | case3 c cs _ comment after hcomment _ gap rest h ih =>
    unfold splitComment? at hcomment
    split at hcomment
    · rename_i cs' _
      obtain ⟨rfl, rfl⟩ := Prod.mk.inj (Option.some.inj hcomment)
      have hgap := gap_line (notMem_takeWhile_ne '\n' cs') (eq_of_mem_head?_dropWhile_ne cs') ih
      rw [h] at hgap
      exact hgap
    · obtain ⟨⟨a, b⟩, hs, he⟩ := Option.map_eq_some_iff.mp hcomment
      obtain ⟨rfl, rfl⟩ := Prod.mk.inj he
      obtain ⟨body, rfl, hbody⟩ := body_of_splitBlockEnd? hs
      rw [h] at ih
      simpa using Gap.block hbody ih
    · cases hcomment
  | case4 => exact .nil

/-- What is left begins with neither spacing nor a comment. -/
theorem stops_of_splitTrivia {cs : List Char} {c : Char} {rest : List Char}
    (h : (splitTrivia cs).2 = c :: rest) :
    ¬isSpacing c = true ∧ splitComment? (c :: rest) = none := by
  fun_induction splitTrivia cs with
  | case1 => cases h
  | case2 _ _ _ _ _ hsplit ih => exact ih (by rw [hsplit]; exact h)
  | case3 _ _ _ _ _ _ _ _ _ hsplit ih => exact ih (by rw [hsplit]; exact h)
  | case4 c cs hspacing hnone =>
    cases h
    exact ⟨hspacing, hnone⟩

/-! ### What a gap splits into -/

theorem splitTrivia_of_isSpacing {c : Char} (hc : isSpacing c = true) (cs : List Char) :
    splitTrivia (c :: cs) = (c :: (splitTrivia cs).1, (splitTrivia cs).2) := by
  rw [splitTrivia, if_pos hc]

theorem splitTrivia_of_comment {c : Char} {cs comment after : List Char}
    (hc : ¬isSpacing c = true) (h : splitComment? (c :: cs) = some (comment, after)) :
    splitTrivia (c :: cs) = (comment ++ (splitTrivia after).1, (splitTrivia after).2) := by
  rw [splitTrivia, if_neg hc]
  split
  · rename_i hsome
    cases h.symm.trans hsome
    rfl
  · rename_i hnone
    cases h.symm.trans hnone

theorem splitComment?_of_ne {c : Char} (hminus : c ≠ '-') (hslash : c ≠ '/') (cs : List Char) :
    splitComment? (c :: cs) = none := by
  unfold splitComment?
  split
  · rename_i h
    exact absurd (List.cons.inj h).1 hminus
  · rename_i h
    exact absurd (List.cons.inj h).1 hslash
  · rfl

theorem splitTrivia_of_none {c : Char} {cs : List Char} (hc : ¬isSpacing c = true)
    (h : splitComment? (c :: cs) = none) : splitTrivia (c :: cs) = ([], c :: cs) := by
  rw [splitTrivia, if_neg hc]
  split
  · rename_i hsome
    cases h.symm.trans hsome
  · rfl

theorem splitBlockEnd?_append {body : List Char} (hbody : ¬['*', '/'] <:+: body)
    (rest : List Char) :
    splitBlockEnd? (body ++ '*' :: '/' :: rest) = some (body ++ ['*', '/'], rest) := by
  induction body with
  | nil => rfl
  | cons c body ih =>
    rw [List.infix_cons_iff, not_or] at hbody
    -- the star of the end may follow a star of the body, but no slash of the body follows one
    have hends : ∀ cs, c = '*' → body ++ '*' :: '/' :: rest = '/' :: cs → False := by
      rintro cs rfl hcs
      cases body with
      | nil => cases hcs
      | cons d body =>
        obtain ⟨rfl, -⟩ := List.cons.inj hcs
        exact hbody.1 ⟨body, rfl⟩
    rw [List.cons_append, splitBlockEnd?.eq_3 _ _ hends, ih hbody.2]
    rfl

theorem splitComment?_line {body rest : List Char} (hbody : '\n' ∉ body)
    (hrest : ∀ c ∈ rest.head?, c = '\n') :
    splitComment? ('-' :: '-' :: (body ++ rest)) = some ('-' :: '-' :: body, rest) := by
  obtain ⟨htake, hdrop⟩ := takeWhile_dropWhile_append (p := (· ≠ '\n')) (u := body) (v := rest)
    (fun c hc => decide_eq_true fun h => hbody (h ▸ hc))
    (fun c hc => decide_eq_false fun hne => hne (hrest c hc))
  simp only [splitComment?, htake, hdrop]

theorem splitComment?_block {body : List Char} (hbody : ¬['*', '/'] <:+: body)
    (rest : List Char) :
    splitComment? ('/' :: '*' :: (body ++ '*' :: '/' :: rest)) =
      some ('/' :: '*' :: (body ++ ['*', '/']), rest) := by
  rw [splitComment?, splitBlockEnd?_append hbody]
  rfl

/-- What splits off a text after a gap is the gap and what splits off the text. A line comment
without a line feed takes up all that comes after it, so nothing may. -/
theorem Gap.splitTrivia_append {last : Bool} {gap : List Char} (h : Gap last gap)
    (rest : List Char) (hlast : last = true → rest = []) :
    splitTrivia (gap ++ rest) = (gap ++ (splitTrivia rest).1, (splitTrivia rest).2) := by
  induction h with
  | nil => rfl
  | spacing hc _ ih => rw [List.cons_append, splitTrivia_of_isSpacing hc, ih hlast]; rfl
  | @line body _ u hbody _ ih =>
    have hcomment : splitComment? ('-' :: '-' :: (body ++ '\n' :: (u ++ rest))) =
        some ('-' :: '-' :: body, '\n' :: (u ++ rest)) := splitComment?_line hbody (by simp)
    simp only [List.cons_append, List.append_assoc]
    rw [splitTrivia_of_comment (by decide) hcomment, splitTrivia_of_isSpacing (by decide),
      ih hlast]
    rfl
  | @block body _ u hbody _ ih =>
    simp only [List.cons_append, List.append_assoc]
    rw [splitTrivia_of_comment (by decide) (splitComment?_block hbody (u ++ rest)), ih hlast]
    simp
  | lastLine hbody =>
    obtain rfl := hlast rfl
    rw [List.cons_append, List.cons_append,
      splitTrivia_of_comment (by decide) (splitComment?_line hbody (by simp))]

end SqlSyntax
