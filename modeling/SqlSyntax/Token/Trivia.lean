/-!
# Spacing and comments

What stands between tokens: spaces, tabs, line ends, line comments from `--` to the end of
the line, and block comments, which do not nest. A block comment that is never closed is
not trivia; the text left begins with it.
-/
namespace SqlSyntax

def isSpacing (c : Char) : Bool := c = ' ' || c = '\t' || c = '\r' || c = '\n'

/-- A text split after the first `*/`, if it has one. -/
def splitBlockEnd? : List Char → Option (List Char × List Char)
  | [] => none
  | '*' :: '/' :: cs => some (['*', '/'], cs)
  | c :: cs => (splitBlockEnd? cs).map fun s => (c :: s.1, s.2)

/-- The complete comment at the front of a text, and the text after it. The line feed
after a line comment is not part of it. -/
def splitComment? : List Char → Option (List Char × List Char)
  | '-' :: '-' :: cs =>
    some ('-' :: '-' :: cs.takeWhile (· ≠ '\n'), cs.dropWhile (· ≠ '\n'))
  | '/' :: '*' :: cs => (splitBlockEnd? cs).map fun s => ('/' :: '*' :: s.1, s.2)
  | _ => none

theorem append_of_splitBlockEnd? {cs a b : List Char} (h : splitBlockEnd? cs = some (a, b)) :
    a ++ b = cs := by
  fun_induction splitBlockEnd? cs generalizing a b with
  | case1 => simp at h
  | case2 cs => simp at h; simp [← h.1, ← h.2]
  | case3 c cs _ ih =>
    obtain ⟨⟨x, y⟩, hs, he⟩ := Option.map_eq_some_iff.mp h
    simp only [Prod.mk.injEq] at he
    simp [← he.1, ← he.2, ih hs]

theorem append_of_splitComment? {cs a b : List Char} (h : splitComment? cs = some (a, b)) :
    a ++ b = cs := by
  unfold splitComment? at h
  split at h
  · simp at h; simp [← h.1, ← h.2]
  · obtain ⟨⟨x, y⟩, hs, he⟩ := Option.map_eq_some_iff.mp h
    simp only [Prod.mk.injEq] at he
    simp [← he.1, ← he.2, append_of_splitBlockEnd? hs]
  · simp at h

theorem ne_nil_of_splitComment? {cs a b : List Char} (h : splitComment? cs = some (a, b)) :
    a ≠ [] := by
  unfold splitComment? at h
  split at h
  · simp at h; simp [← h.1]
  · obtain ⟨⟨x, y⟩, hs, he⟩ := Option.map_eq_some_iff.mp h
    simp only [Prod.mk.injEq] at he
    simp [← he.1]
  · simp at h

theorem length_lt_of_splitComment? {cs a b : List Char} (h : splitComment? cs = some (a, b)) :
    b.length < cs.length := by
  have := List.length_pos_iff.mpr (ne_nil_of_splitComment? h)
  rw [← append_of_splitComment? h, List.length_append]
  omega

/-- The trivia at the front of a text, and the text after it. -/
def splitTrivia : List Char → List Char × List Char
  | [] => ([], [])
  | c :: cs =>
    if isSpacing c then
      let (gap, rest) := splitTrivia cs
      (c :: gap, rest)
    else match h : splitComment? (c :: cs) with
      | some (comment, after) =>
        have : after.length ≤ cs.length := Nat.le_of_lt_succ (length_lt_of_splitComment? h)
        let (gap, rest) := splitTrivia after
        (comment ++ gap, rest)
      | none => ([], c :: cs)
termination_by cs => cs.length

theorem splitTrivia_append (cs : List Char) : (splitTrivia cs).1 ++ (splitTrivia cs).2 = cs := by
  fun_induction splitTrivia cs with
  | case1 => rfl
  | case2 c cs _ gap rest h ih => simpa [h] using ih
  | case3 c cs _ comment after hc _ gap rest h ih =>
    have := append_of_splitComment? hc
    simp_all [List.append_assoc]
  | case4 => rfl

end SqlSyntax
